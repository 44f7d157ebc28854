import BuildRegistry.Proofs.Store.Histories

/-
  The life of API keys in a history of the store. A key is added when it is created, and from then
  on its row keeps its place, its identity and its hash (`KeysKept`). The row is marked when the
  secret is used, and revoked once and for good: whether it is revoked tells whether a revocation
  has succeeded since it was created (`isRevoked_iff_happens`). No two keys share a hash, so a
  secret reaches one row at most, and a revoked row lets nobody in.

  Main statement: a secret is let in exactly while the key that was created with it has not been
  revoked (`key_lifecycle`). That two secrets of one hash are equal is assumed of the secret that
  is presented and those that were handed out. Fresh secrets need not be assumed: a key whose hash
  is there already is not created.
-/

namespace BuildRegistry

/-- What may become of a key: its times change, the time of its revocation only once. -/
structure ApiKey.Becomes (k k' : ApiKey) : Prop where
  id : k'.id = k.id
  label : k'.label = k.label
  hash : k'.hash = k.hash
  createdAt : k'.createdAt = k.createdAt
  revokedAt : k.isRevoked → k'.revokedAt = k.revokedAt

namespace ApiKey.Becomes

theorem refl (k : ApiKey) : k.Becomes k := ⟨rfl, rfl, rfl, rfl, fun _ => rfl⟩

theorem isRevoked {k k' : ApiKey} (h : k.Becomes k') (hk : k.isRevoked) : k'.isRevoked := by
  rw [ApiKey.isRevoked, h.revokedAt hk]
  exact hk

theorem trans {k k' k'' : ApiKey} (h : k.Becomes k') (h' : k'.Becomes k'') : k.Becomes k'' where
  id := h'.id.trans h.id
  label := h'.label.trans h.label
  hash := h'.hash.trans h.hash
  createdAt := h'.createdAt.trans h.createdAt
  revokedAt hk := (h'.revokedAt (h.isRevoked hk)).trans (h.revokedAt hk)

end ApiKey.Becomes

namespace Store

/-! ## Events of a history -/

/-- The call creates a key, which it answers together with this secret. -/
def Creates (secret : String) (k : ApiKey) (s : Store) (c : Call) : Prop :=
  ∃ label, c.command = .createKey label ∧ c.supply.secret = secret ∧
    outcome (createKey label (c.supply.id 0) secret c.supply.now s) = .ok k

/-- The call revokes the key of that identifier, and succeeds. -/
def Revokes (id : String) (s : Store) (c : Call) : Prop :=
  c.command = .revokeKey id ∧ succeeds (revokeKey id c.supply.now s) = true

/-- Some call of the history meets a store in which it is such an event. -/
def Happens (event : Store → Call → Prop) (s : Store) (history : List Call) : Prop :=
  ∃ before c later, history = before ++ c :: later ∧ event (s.after before) c

/-- The history has created the key with that secret, and has not revoked it since. -/
def Live (history : List Call) (secret : String) (k : ApiKey) : Prop :=
  ∃ before c later, history = before ++ c :: later ∧ Creates secret k (empty.after before) c ∧
    ¬ Happens (Revokes k.id) (empty.after (before ++ [c])) later

theorem Creates.run {secret : String} {k : ApiKey} {s : Store} {c : Call}
    (h : Creates secret k s c) : c.supply.secret = secret ∧ k.hash = hashSecret secret ∧
      k.revokedAt = none ∧ (endState (c.command.run c.supply s)).keys = s.keys ++ [k] := by
  obtain ⟨label, hcommand, rfl, hcreated⟩ := h
  obtain ⟨t, hrun⟩ := exists_of_outcome hcreated
  rw [hcommand]
  change _ ∧ _ ∧ _ ∧ (endState (quietly (createKey label _ _ _) s)).keys = _
  rw [quietly, bind_of_ok hrun]
  rw [createKey_run] at hrun
  split at hrun <;> cases hrun
  exact ⟨rfl, rfl, rfl, rfl⟩

theorem after_append (s : Store) (h h' : List Call) : s.after (h ++ h') = (s.after h).after h' :=
  List.foldl_append

theorem after_singleton (s : Store) (c : Call) :
    s.after [c] = endState (c.command.run c.supply s) := rfl

theorem after_cons (s : Store) (c : Call) (h : List Call) :
    s.after (c :: h) = (s.after [c]).after h := rfl

theorem after_append_cons (s : Store) (before later : List Call) (c : Call) :
    s.after (before ++ c :: later) = (s.after (before ++ [c])).after later := by
  rw [List.append_cons, after_append]

theorem not_happens_nil (event : Store → Call → Prop) (s : Store) : ¬ Happens event s [] := by
  rintro ⟨before, c, later, h, -⟩
  cases before <;> cases h

theorem happens_cons {event : Store → Call → Prop} {s : Store} {c : Call} {h : List Call} :
    Happens event s (c :: h) ↔ event s c ∨ Happens event (s.after [c]) h := by
  constructor
  · rintro ⟨before, c', later, heq, hevent⟩
    cases before with
    | nil =>
      cases heq
      exact .inl hevent
    | cons b before =>
      cases heq
      exact .inr ⟨before, c', later, rfl, hevent⟩
  · rintro (hevent | ⟨before, c', later, rfl, hevent⟩)
    · exact ⟨[], c, h, rfl, hevent⟩
    · exact ⟨c :: before, c', later, rfl, hevent⟩

theorem Integrity.after {s : Store} (hi : Integrity s) (history : List Call) :
    Integrity (s.after history) := after_keeps Integrity (fun sup c => keeps_command sup c) hi history

/-! ## What a call does to the keys -/

/-- Leaving the keys alone. -/
instance keysPreorder : IsPreorder Store fun s t => t.keys = s.keys where
  refl _ := rfl
  trans _ _ _ h h' := h'.trans h

/-- The operation leaves the keys alone, whether it succeeds or fails. -/
abbrev LeavesKeys {α : Type} (act : StoreM α) : Prop := Steps (fun s t => t.keys = s.keys) act

theorem leavesKeys_insertPackage (p : Package) : LeavesKeys (insertPackage p) := by
  intro s
  rw [insertPackage_run]
  split <;> rfl

theorem leavesKeys_insertContract (c : Contract) : LeavesKeys (insertContract c) := by
  intro s
  rw [insertContract_run]
  split
  · rfl
  · split <;> rfl

theorem leavesKeys_putArtifact (a : Artifact) : LeavesKeys (putArtifact a) := by
  intro s
  rw [putArtifact_run]
  split
  · rfl
  · split
    · rfl
    · split <;> rfl

theorem leavesKeys_publish (b : Bundle) : LeavesKeys (publish b) := by
  have hbundle : LeavesKeys (insertBundle b) :=
    steps_bind (leavesKeys_insertPackage _) fun _ => steps_forM fun d _ =>
      steps_bind (leavesKeys_insertContract _) fun _ => steps_forM fun a _ =>
        leavesKeys_putArtifact a
  intro s
  have := hbundle s
  unfold publish transaction
  cases h : insertBundle b s with
  | ok u t => rwa [h] at this
  | error e t => rfl

theorem leavesKeys_deletePackage (id : String) : LeavesKeys (deletePackage id) := by
  intro s
  rw [deletePackage_run]
  split <;> rfl

theorem leavesKeys_claimName (name ownerId : String) (now : Time) :
    LeavesKeys (claimName name ownerId now) := by
  intro s
  rw [claimName_run, claiming]
  split <;> rfl

theorem leavesKeys_recordDeployment (d : Deployment) : LeavesKeys (recordDeployment d) := by
  intro s
  rw [recordDeployment_run]
  split
  · rfl
  · split <;> rfl

theorem leavesKeys_setVerification (id : String) (verified : Bool) (on : Option String)
    (now : Time) : LeavesKeys (setVerification id verified on now) := by
  intro s
  rw [setVerification_run]
  split <;> rfl

/-- A step of the keys of a store, with the call that makes it. -/
inductive KeysStep (c : Call) (s t : Store) : Prop where
  | kept (keys : t.keys = s.keys)
  | created {secret : String} {k : ApiKey} (creates : Creates secret k s c)
      (keys : t.keys = s.keys ++ [k])
  | used (id : String) (now : Time)
      (keys : t.keys = (s.updateKey id fun k => { k with lastUsedAt := some now }).keys)
  | revoked {id : String} {k : ApiKey} (revokes : Revokes id s c) (found : s.keyById? id = some k)
      (live : k.isRevoked = false) (now : Time)
      (keys : t.keys = (s.updateKey id fun k => { k with revokedAt := some now }).keys)

theorem keysStep_createKey (sup : Supply) (label : String) (s : Store) :
    KeysStep ⟨sup, .createKey label⟩ s (s.after [⟨sup, .createKey label⟩]) := by
  rw [after_singleton]
  change KeysStep _ s (endState (quietly (createKey label (sup.id 0) sup.secret sup.now) s))
  cases h : createKey label (sup.id 0) sup.secret sup.now s with
  | error e t =>
    rw [quietly, bind_of_error h, endState_error, atomic_createKey _ _ _ _ _ _ _ h]
    exact .kept rfl
  | ok k t =>
    rw [quietly, bind_of_ok h]
    have hcreates : Creates sup.secret k s ⟨sup, .createKey label⟩ :=
      ⟨label, rfl, rfl, by rw [h, outcome_ok]⟩
    refine .created hcreates ?_
    rw [createKey_run] at h
    split at h <;> cases h
    rfl

theorem keysStep_useKey (sup : Supply) (secret : String) (s : Store) :
    KeysStep ⟨sup, .useKey secret⟩ s (s.after [⟨sup, .useKey secret⟩]) := by
  rw [after_singleton]
  change KeysStep _ s (endState (quietly (useKey secret sup.now) s))
  have hrun := useKey_run secret sup.now s
  cases hfound : s.keyByHash? (hashSecret secret) with
  | none =>
    rw [hfound] at hrun
    rw [quietly, bind_of_error hrun]
    exact .kept rfl
  | some k =>
    rw [hfound] at hrun
    rw [quietly, bind_of_ok hrun]
    exact .used k.id sup.now rfl

theorem keysStep_revokeKey (sup : Supply) (id : String) (s : Store) :
    KeysStep ⟨sup, .revokeKey id⟩ s (s.after [⟨sup, .revokeKey id⟩]) := by
  rw [after_singleton]
  change KeysStep _ s (endState (revokeKey id sup.now s))
  rw [revokeKey_run]
  cases hfound : s.keyById? id with
  | none => exact .kept rfl
  | some k =>
    dsimp only
    cases hlive : k.isRevoked with
    | true => exact .kept rfl
    | false =>
      refine .revoked ⟨rfl, ?_⟩ hfound hlive sup.now rfl
      rw [revokeKey_run, hfound]
      rfl

theorem keysStep_after (s : Store) (c : Call) : KeysStep c s (s.after [c]) := by
  obtain ⟨sup, command⟩ := c
  have kept : ∀ {act : StoreM Unit}, LeavesKeys act → KeysStep ⟨sup, command⟩ s (endState (act s)) :=
    fun h => .kept (h s)
  have looks : ∀ {α : Type} {act : StoreM α}, Steps Eq act →
      KeysStep ⟨sup, command⟩ s (endState (quietly act s)) :=
    fun h => kept (steps_quietly (steps_of_looks h))
  cases command with
  | createKey label => exact keysStep_createKey sup label s
  | useKey secret => exact keysStep_useKey sup secret s
  | revokeKey id => exact keysStep_revokeKey sup id s
  | migrate => exact .kept rfl
  | createPackage p => exact kept (leavesKeys_insertPackage p)
  | deletePackage id => exact kept (leavesKeys_deletePackage id)
  | claimName name ownerId => exact kept (steps_quietly (leavesKeys_claimName name ownerId sup.now))
  | publish b => exact kept (leavesKeys_publish b)
  | createContract c => exact kept (leavesKeys_insertContract c)
  | storeArtifact a =>
    exact kept (steps_quietly (steps_bind (leavesKeys_putArtifact a) fun _ =>
      steps_of_looks (steps_found _ _)))
  | recordDeployment d => exact kept (leavesKeys_recordDeployment d)
  | setVerification id verified on =>
    exact kept (steps_quietly (leavesKeys_setVerification id verified on sup.now))
  | getPackage => exact looks (steps_found _ _)
  | getPackageById => exact looks (steps_found _ _)
  | getContract => exact looks (steps_found _ _)
  | getArtifact => exact looks (steps_found _ _)
  | getArtifactByHash => exact looks (steps_found _ _)
  | getDeployment => exact looks (steps_found _ _)
  | listDeployments f p => exact looks (steps_listDeployments f p)
  | packageVersions | listPackages | packageExists | packageOwner | listContracts | listArtifacts
  | listKeys => exact .kept rfl

/-! ## Rows through a history -/

/-- Every key keeps its row, in which only its times change. -/
def KeysKept (s t : Store) : Prop :=
  ∀ (i : Nat) (k : ApiKey), s.keys[i]? = some k → ∃ k', t.keys[i]? = some k' ∧ k.Becomes k'

theorem KeysKept.of_eq {s t : Store} (h : t.keys = s.keys) : KeysKept s t :=
  fun _ k hk => ⟨k, h ▸ hk, .refl k⟩

theorem KeysKept.trans {s t u : Store} (h : KeysKept s t) (h' : KeysKept t u) : KeysKept s u := by
  intro i k hk
  obtain ⟨k', hk', hb⟩ := h i k hk
  obtain ⟨k'', hk'', hb'⟩ := h' i k' hk'
  exact ⟨k'', hk'', hb.trans hb'⟩

/-- A row after the keys of one identifier have changed. -/
theorem getElem?_updateKey {s : Store} {id : String} {change : ApiKey → ApiKey} {i : Nat}
    {k : ApiKey} (h : s.keys[i]? = some k) :
    (s.updateKey id change).keys[i]? = some (if k.id = id then change k else k) := by
  change (s.keys.map _)[i]? = _
  rw [List.getElem?_map, h, Option.map_some]

theorem KeysKept.of_updateKey {s t : Store} {id : String} {change : ApiKey → ApiKey}
    (ht : t.keys = (s.updateKey id change).keys)
    (hchange : ∀ k ∈ s.keys, k.id = id → k.Becomes (change k)) : KeysKept s t := by
  intro i k hk
  refine ⟨_, ht ▸ getElem?_updateKey hk, ?_⟩
  split
  · rename_i hid
    exact hchange k (List.mem_of_getElem? hk) hid
  · exact .refl k

theorem keyById?_mem {s : Store} {id : String} {k : ApiKey} (h : s.keyById? id = some k) :
    k ∈ s.keys ∧ k.id = id :=
  ⟨List.mem_of_find?_eq_some h, by simpa using List.find?_some h⟩

theorem KeysStep.keysKept {c : Call} {s t : Store} (h : KeysStep c s t) (hi : Integrity s) :
    KeysKept s t := by
  cases h with
  | kept keys => exact .of_eq keys
  | created _ keys =>
    intro i k hk
    refine ⟨k, ?_, .refl k⟩
    rw [keys, List.getElem?_append_left (List.getElem?_eq_some_iff.1 hk).1, hk]
  | used id now keys => exact .of_updateKey keys fun k _ _ => ⟨rfl, rfl, rfl, rfl, fun _ => rfl⟩
  | revoked _ found live now keys =>
    refine .of_updateKey keys fun l hl hid => ⟨rfl, rfl, rfl, rfl, fun hrevoked => ?_⟩
    -- only the key that was found has this identifier, and it was not revoked
    obtain ⟨hk, hkid⟩ := keyById?_mem found
    rw [eq_of_key hi.keyIds hl hk (hid.trans hkid.symm), live] at hrevoked
    cases hrevoked

theorem keysKept_after {s : Store} (hi : Integrity s) (history : List Call) :
    KeysKept s (s.after history) := by
  induction history generalizing s with
  | nil => exact .of_eq rfl
  | cons c history ih => exact ((keysStep_after s c).keysKept hi).trans (ih (hi.after [c]))

/-- A key that stands in a row stood there before, or it has been created. -/
theorem created_of_getElem? {s : Store} {history : List Call} {i : Nat} {k' : ApiKey}
    (h : (s.after history).keys[i]? = some k') : i < s.keys.length ∨
      ∃ before c later secret k, history = before ++ c :: later ∧
        Creates secret k (s.after before) c ∧ (s.after (before ++ [c])).keys[i]? = some k := by
  induction history generalizing s with
  | nil => exact .inl (List.getElem?_eq_some_iff.1 h).1
  | cons c history ih =>
    rw [after_cons] at h
    rcases ih h with hlt | ⟨before, c', later, secret, k, rfl, hcreates, hk⟩
    · cases keysStep_after s c with
      | kept keys => exact .inl (keys ▸ hlt)
      | used id now keys =>
        rw [keys] at hlt
        exact .inl (List.length_map _ ▸ hlt)
      | revoked _ _ _ now keys =>
        rw [keys] at hlt
        exact .inl (List.length_map _ ▸ hlt)
      | @created secret k hcreates keys =>
        rw [keys, List.length_append, List.length_singleton] at hlt
        rcases Nat.lt_succ_iff_lt_or_eq.1 hlt with hlt | rfl
        · exact .inl hlt
        · exact .inr ⟨[], c, history, secret, k, rfl, hcreates, keys ▸ List.getElem?_concat_length⟩
    · exact .inr ⟨c :: before, c', later, secret, k, rfl, hcreates, hk⟩

/-! ## Revocation -/

section Revocation

variable {s : Store} {i : Nat} {k k' : ApiKey}

theorem Revokes.revoked {c : Call} {id : String} (h : Revokes id s c) :
    ∃ k ∈ (s.after [c]).keys, k.id = id ∧ k.isRevoked := by
  obtain ⟨hcommand, hsucceeds⟩ := h
  obtain ⟨sup, command⟩ := c
  obtain rfl : command = .revokeKey id := hcommand
  change ∃ k ∈ (endState (revokeKey id sup.now s)).keys, _
  dsimp only at hsucceeds
  rw [revokeKey_run] at hsucceeds ⊢
  cases hfound : s.keyById? id with
  | none =>
    rw [hfound] at hsucceeds
    cases hsucceeds
  | some k =>
    obtain ⟨hk, hid⟩ := keyById?_mem hfound
    dsimp only
    split
    · rename_i hrevoked
      exact ⟨k, hk, hid, hrevoked⟩
    · obtain ⟨i, hi⟩ := List.getElem?_of_mem hk
      have hrow : (s.updateKey id fun k => { k with revokedAt := some sup.now }).keys[i]? =
          some (if k.id = id then _ else k) := getElem?_updateKey hi
      rw [if_pos hid] at hrow
      exact ⟨_, List.mem_of_getElem? hrow, hid, rfl⟩

/-- A key that was live before a call is revoked by it exactly if the call is a revocation of that
key. -/
theorem isRevoked_iff_revokes (hi : Integrity s) {c : Call} (hk : s.keys[i]? = some k)
    (hlive : k.isRevoked = false) (hk' : (s.after [c]).keys[i]? = some k') :
    k'.isRevoked ↔ Revokes k.id s c := by
  constructor
  · intro hrevoked
    have same : k' = k → Revokes k.id s c := by
      rintro rfl
      rw [hlive] at hrevoked
      cases hrevoked
    cases keysStep_after s c with
    | kept keys =>
      rw [keys, hk] at hk'
      exact same (Option.some.inj hk').symm
    | created _ keys =>
      rw [keys, List.getElem?_append_left (List.getElem?_eq_some_iff.1 hk).1, hk] at hk'
      exact same (Option.some.inj hk').symm
    | used id now keys =>
      rw [keys, getElem?_updateKey hk] at hk'
      rw [← Option.some.inj hk'] at hrevoked
      refine absurd (hlive.symm.trans ?_) Bool.false_ne_true
      split at hrevoked <;> exact hrevoked
    | @revoked id _ hrevokes _ _ now keys =>
      rw [keys, getElem?_updateKey hk] at hk'
      split at hk'
      · rename_i hid
        exact hid ▸ hrevokes
      · exact same (Option.some.inj hk').symm
  · intro hrevokes
    obtain ⟨r, hr, hid, hrevoked⟩ := hrevokes.revoked
    obtain ⟨l, hl, hb⟩ := (keysStep_after s c).keysKept hi i k hk
    obtain rfl := Option.some.inj (hl.symm.trans hk')
    rwa [← eq_of_key (hi.after [c]).keyIds hr (List.mem_of_getElem? hk') (hid.trans hb.id.symm)]

/-- A key that was live before a history is revoked after it exactly if a revocation of that key
has succeeded on the way. -/
theorem isRevoked_iff_happens (hi : Integrity s) {history : List Call} (hk : s.keys[i]? = some k)
    (hlive : k.isRevoked = false) (hk' : (s.after history).keys[i]? = some k') :
    k'.isRevoked ↔ Happens (Revokes k.id) s history := by
  induction history generalizing s k with
  | nil =>
    obtain rfl := Option.some.inj (hk.symm.trans hk')
    rw [hlive, iff_false_right (not_happens_nil _ _)]
    exact Bool.false_ne_true
  | cons c history ih =>
    obtain ⟨k₁, hk₁, hb⟩ := (keysStep_after s c).keysKept hi i k hk
    have hstep := isRevoked_iff_revokes hi hk hlive hk₁
    rw [happens_cons]
    cases hlive₁ : k₁.isRevoked with
    | true =>
      obtain ⟨k₂, hk₂, hb₂⟩ := keysKept_after (hi.after [c]) history i k₁ hk₁
      obtain rfl := Option.some.inj (hk₂.symm.trans hk')
      exact iff_of_true (hb₂.isRevoked hlive₁) (.inl (hstep.1 hlive₁))
    | false =>
      rw [ih (hi.after [c]) hk₁ hlive₁ hk', hb.id, or_iff_right]
      intro hrevokes
      rw [hstep.2 hrevokes] at hlive₁
      cases hlive₁

end Revocation

/-! ## Secrets -/

/-- A secret reaches the one key with its hash, unless it is revoked. -/
theorem Integrity.keyByHash?_eq_some {s : Store} (hi : Integrity s) {hash : Bytes} {k : ApiKey} :
    s.keyByHash? hash = some k ↔ k ∈ s.keys ∧ k.hash = hash ∧ k.isRevoked = false := by
  constructor
  · intro h
    exact ⟨List.mem_of_find?_eq_some h, by simpa using List.find?_some h⟩
  · rintro ⟨hk, rfl, hlive⟩
    cases h : s.keyByHash? k.hash with
    | none => simpa [hlive] using List.find?_eq_none.1 h k hk
    | some l =>
      have hl : l.hash = k.hash ∧ l.isRevoked = false := by simpa using List.find?_some h
      rw [eq_of_key hi.keyHashes (List.mem_of_find?_eq_some h) hk hl.1]

section Lifecycle

variable {history : List Call} {secret : String} {k k' : ApiKey}

/-- The row of a key that was created, after the history; whether it is revoked tells whether that
happened on the way. -/
theorem Creates.row_after {before : List Call} {c : Call} {i : Nat}
    (h : Creates secret k (empty.after before) c)
    (hk : (empty.after (before ++ [c])).keys[i]? = some k) (later : List Call) :
    ∃ k', (empty.after (before ++ c :: later)).keys[i]? = some k' ∧ k.Becomes k' ∧
      (k'.isRevoked ↔ Happens (Revokes k.id) (empty.after (before ++ [c])) later) := by
  have hi : Integrity (empty.after (before ++ [c])) := integrity_after_history _
  have hlive : k.isRevoked = false := by rw [ApiKey.isRevoked, h.run.2.2.1, Option.isSome_none]
  obtain ⟨k', hk', hb⟩ := keysKept_after hi later i k hk
  exact ⟨k', after_append_cons _ before later c ▸ hk', hb, isRevoked_iff_happens hi hk hlive hk'⟩

/-- A key that is live has its row, which is not revoked. -/
theorem Live.stored (h : Live history secret k) :
    ∃ k' ∈ (empty.after history).keys, k.Becomes k' ∧ k'.isRevoked = false := by
  obtain ⟨before, c, later, rfl, hcreates, hkept⟩ := h
  have hk : (empty.after (before ++ [c])).keys[(empty.after before).keys.length]? = some k := by
    rw [after_append, after_singleton, hcreates.run.2.2.2, List.getElem?_concat_length]
  obtain ⟨k', hk', hb, hrevoked⟩ := hcreates.row_after hk later
  exact ⟨k', List.mem_of_getElem? hk', hb, Bool.eq_false_iff.2 fun h => hkept (hrevoked.1 h)⟩

/-- A row that is not revoked belongs to a key that is live. -/
theorem exists_live (hk' : k' ∈ (empty.after history).keys) (hlive : k'.isRevoked = false) :
    ∃ secret k, Live history secret k ∧ k.Becomes k' := by
  obtain ⟨i, hi⟩ := List.getElem?_of_mem hk'
  rcases created_of_getElem? hi with hlt | ⟨before, c, later, secret, k, rfl, hcreates, hk⟩
  · exact absurd hlt (Nat.not_lt_zero i)
  · obtain ⟨l, hl, hb, hrevoked⟩ := hcreates.row_after hk later
    obtain rfl := Option.some.inj (hl.symm.trans hi)
    refine ⟨secret, k, ⟨before, c, later, rfl, hcreates, fun hhappens => ?_⟩, hb⟩
    rw [hrevoked.2 hhappens] at hlive
    cases hlive

theorem Live.hash (h : Live history secret k) : k.hash = hashSecret secret ∧ k.revokedAt = none ∧
    ∃ c ∈ history, ∃ label, c.command = .createKey label ∧ c.supply.secret = secret := by
  obtain ⟨before, c, later, rfl, hcreates, -⟩ := h
  obtain ⟨hsecret, hhash, hlive, -⟩ := hcreates.run
  obtain ⟨label, hcommand, -⟩ := hcreates
  exact ⟨hhash, hlive, c, List.mem_append_right _ List.mem_cons_self, label, hcommand, hsecret⟩

/-- A secret that is let in is that of a live key, which is answered as used now. -/
theorem useKey_eq_ok_iff {now : Time} {t : Store}
    (hcollide : ∀ c ∈ history, ∀ label, c.command = .createKey label →
      hashSecret c.supply.secret = hashSecret secret → c.supply.secret = secret) :
    useKey secret now (empty.after history) = .ok k t ↔ ∃ l, Live history secret l ∧
      k = { l with lastUsedAt := some now } ∧
      t = (empty.after history).updateKey l.id fun l => { l with lastUsedAt := some now } := by
  have hintegrity := integrity_after_history history
  have used : ∀ {l l' : ApiKey}, l.Becomes l' → l.revokedAt = none → l'.isRevoked = false →
      ({ l' with lastUsedAt := some now } : ApiKey) = { l with lastUsedAt := some now } := by
    intro l l' hb hl hl'
    have hl' : l'.revokedAt = none := by simpa [ApiKey.isRevoked] using hl'
    rw [hb.id, hb.label, hb.hash, hb.createdAt, hl, hl']
  rw [useKey_run]
  constructor
  · intro h
    split at h
    · rename_i k' hfound
      obtain ⟨rfl, rfl⟩ := EStateM.Result.ok.inj h
      obtain ⟨hk', hhash, hlive⟩ := hintegrity.keyByHash?_eq_some.1 hfound
      obtain ⟨secret', l, hl, hb⟩ := exists_live hk' hlive
      obtain ⟨hlhash, hlrevoked, c, hc, label, hcommand, rfl⟩ := hl.hash
      obtain rfl := hcollide c hc label hcommand (by rw [← hlhash, ← hb.hash, hhash])
      exact ⟨l, hl, used hb hlrevoked hlive, by rw [hb.id]⟩
    · cases h
  · rintro ⟨l, hl, rfl, rfl⟩
    obtain ⟨k', hk', hb, hlive⟩ := hl.stored
    obtain ⟨hlhash, hlrevoked, -⟩ := hl.hash
    rw [hintegrity.keyByHash?_eq_some.2 ⟨hk', hb.hash.trans hlhash, hlive⟩]
    dsimp only
    rw [used hb hlrevoked hlive, hb.id]

/-- A key that was revoked once stays revoked since that time, and its secret is refused. -/
theorem refused_of_revokes {before : List Call} {c : Call} {id : String}
    (h : Revokes id (empty.after before) c) (later : List Call) (now : Time) :
    ∃ k ∈ (empty.after (before ++ [c])).keys, k.id = id ∧ k.isRevoked ∧
      (∃ k' ∈ (empty.after (before ++ c :: later)).keys,
        k'.id = id ∧ k'.revokedAt = k.revokedAt) ∧
      ∀ secret, hashSecret secret = k.hash →
        useKey secret now (empty.after (before ++ c :: later)) =
          .error (.notFound "api key") (empty.after (before ++ c :: later)) := by
  obtain ⟨k, hk, hid, hrevoked⟩ := h.revoked
  rw [← after_append] at hk
  obtain ⟨i, hi⟩ := List.getElem?_of_mem hk
  obtain ⟨k', hk', hb⟩ := keysKept_after (integrity_after_history _) later i k hi
  rw [← after_append_cons] at hk'
  refine ⟨k, hk, hid, hrevoked, ⟨k', List.mem_of_getElem? hk', hb.id.trans hid,
    hb.revokedAt hrevoked⟩, fun secret hsecret => ?_⟩
  have hintegrity := integrity_after_history (before ++ c :: later)
  have hnone : (empty.after (before ++ c :: later)).keyByHash? (hashSecret secret) = none := by
    cases hfound : (empty.after (before ++ c :: later)).keyByHash? (hashSecret secret) with
    | none => rfl
    | some l =>
      -- the row with this hash is that of the key
      obtain ⟨hl, hhash, hlive⟩ := hintegrity.keyByHash?_eq_some.1 hfound
      have hsame : l = k' := eq_of_key hintegrity.keyHashes hl (List.mem_of_getElem? hk')
        (hhash.trans (hsecret.trans hb.hash.symm))
      rw [hsame, hb.isRevoked hrevoked] at hlive
      cases hlive
  rw [useKey_run, hnone]

/-- After every history of an empty store, a secret is let in exactly if it is that of a key that
was created and has not been revoked since; that key is answered, and nothing but the time of its
last use changes. Whatever else is presented is not found. From its first revocation on, a key
keeps the time of it, and its secret is refused. No key ever loses its row, its identifier, its
label, its hash or the time of its creation. -/
theorem key_lifecycle (history : List Call) (secret : String) (now : Time)
    (hcollide : ∀ c ∈ history, ∀ label, c.command = .createKey label →
      hashSecret c.supply.secret = hashSecret secret → c.supply.secret = secret) :
    (∀ k t, useKey secret now (empty.after history) = .ok k t ↔ ∃ l, Live history secret l ∧
      k = { l with lastUsedAt := some now } ∧
      t = (empty.after history).updateKey l.id fun l => { l with lastUsedAt := some now }) ∧
    (∀ e t, useKey secret now (empty.after history) = .error e t →
      e = .notFound "api key" ∧ t = empty.after history) ∧
    (∀ before c later id, history = before ++ c :: later → Revokes id (empty.after before) c →
      ∃ k ∈ (empty.after (before ++ [c])).keys, k.id = id ∧ k.isRevoked ∧
        (∃ k' ∈ (empty.after history).keys, k'.id = id ∧ k'.revokedAt = k.revokedAt) ∧
        ∀ secret, hashSecret secret = k.hash →
          useKey secret now (empty.after history) =
            .error (.notFound "api key") (empty.after history)) ∧
    ∀ before later, history = before ++ later →
      KeysKept (empty.after before) (empty.after history) := by
  refine ⟨fun k t => useKey_eq_ok_iff hcollide, fun e t h => ?_, ?_, ?_⟩
  · rw [useKey_run] at h
    split at h <;> cases h
    exact ⟨rfl, rfl⟩
  · rintro before c later id rfl h
    exact refused_of_revokes h later now
  · rintro before later rfl
    rw [after_append]
    exact keysKept_after (integrity_after_history before) later

/-- Two keys, the first of which is used and then revoked, twice. -/
theorem key_lifecycle_two_keys : ∃ history k,
    (∀ c ∈ history, ∀ label, c.command = .createKey label →
      hashSecret c.supply.secret = hashSecret "creg_b" → c.supply.secret = "creg_b") ∧
    Live history "creg_b" k ∧ k.label = "b" ∧
    useKey "creg_a" ⟨9⟩ (empty.after history) =
      .error (.notFound "api key") (empty.after history) := by
  let call (n : Nat) (secret : String) (command : Command) : Call :=
    ⟨⟨⟨n⟩, fun k => toString (n + k), secret⟩, command⟩
  let before : List Call := [call 1 "creg_a" (.createKey "a"), call 2 "creg_b" (.createKey "b"),
    call 3 "creg_a" (.useKey "creg_a")]
  let revocation := call 4 "creg_a" (.revokeKey "1")
  let history := before ++ revocation :: [call 5 "creg_a" (.revokeKey "1")]
  -- one computation, in which each hash is found once
  have hrun : hashSecret "creg_a" ≠ hashSecret "creg_b" ∧
      succeeds (revokeKey "1" ⟨4⟩ (empty.after before)) ∧
      (∀ r ∈ (empty.after (before ++ [revocation])).keys, r.id = "1" →
        hashSecret "creg_a" = r.hash) ∧
      (outcome (useKey "creg_b" ⟨9⟩ (empty.after history))).toOption.map (·.label) = some "b" := by
    decide +kernel
  obtain ⟨hdistinct, hrevokes, hhash, hlabel⟩ := hrun
  have hsecrets : ∀ c ∈ history, c.supply.secret ∈ ["creg_a", "creg_b"] := by decide
  have hcollide : ∀ c ∈ history, ∀ label, c.command = .createKey label →
      hashSecret c.supply.secret = hashSecret "creg_b" → c.supply.secret = "creg_b" := by
    intro c hc _ _ heq
    rcases List.mem_pair.1 (hsecrets c hc) with ha | hb
    · exact absurd (ha ▸ heq) hdistinct
    · exact hb
  obtain ⟨k, t, hused⟩ : ∃ k t, useKey "creg_b" ⟨9⟩ (empty.after history) = .ok k t := by
    cases h : useKey "creg_b" ⟨9⟩ (empty.after history) with
    | ok k t => exact ⟨k, t, rfl⟩
    | error e t =>
      rw [h] at hlabel
      cases hlabel
  obtain ⟨hlets, -, hrevoked, -⟩ := key_lifecycle history "creg_b" ⟨9⟩ hcollide
  obtain ⟨l, hlive, rfl, -⟩ := (hlets k t).1 hused
  rw [hused] at hlabel
  obtain ⟨r, hr, hid, -, -, hrefused⟩ := hrevoked before revocation _ "1" rfl ⟨rfl, hrevokes⟩
  exact ⟨history, l, hcollide, hlive, Option.some.inj hlabel, hrefused "creg_a" (hhash r hr hid)⟩

end Lifecycle

end Store

end BuildRegistry
