import Mathlib.Order.Defs.Unbundled
import BuildRegistry.Registry

/-
  How computations with a state and failures run. `bind_ok` and `bind_error` take a sequence
  apart. `Steps R` says that a computation moves the state along the preorder `R`, whether it
  succeeds or fails; it passes from the parts of a sequence to the whole, so that what is known of
  every call of the store is known of the services.

  A call of the store meets an outage or is carried out (`call_ok`, `call_error`). A service that
  only looks takes every registry to one with the same store (`Reads`); one that `Spares` the
  store leaves it alone when it fails.
-/

namespace BuildRegistry

section Sequences

variable {ε σ α β γ : Type}

/-- The state in which a computation ends. -/
def endState : EStateM.Result ε σ α → σ
  | .ok _ t => t
  | .error _ t => t

@[simp] theorem endState_ok (a : α) (t : σ) : endState (ε := ε) (.ok a t) = t := rfl

@[simp] theorem endState_error (e : ε) (t : σ) : endState (α := α) (.error e t) = t := rfl

/-- What a computation answers. -/
def outcome : EStateM.Result ε σ α → Except ε α
  | .ok a _ => .ok a
  | .error e _ => .error e

@[simp] theorem outcome_ok (a : α) (t : σ) : outcome (ε := ε) (.ok a t) = .ok a := rfl

@[simp] theorem outcome_error (e : ε) (t : σ) : outcome (α := α) (.error e t) = .error e := rfl

theorem exists_of_outcome {x : EStateM.Result ε σ α} {a : α} (h : outcome x = .ok a) :
    ∃ t, x = .ok a t := by
  cases x with
  | ok b t =>
    obtain rfl := Except.ok.inj h
    exact ⟨t, rfl⟩
  | error e t => cases h

/-- Whether a computation gave an answer. -/
def succeeds : EStateM.Result ε σ α → Bool
  | .ok _ _ => true
  | .error _ _ => false

theorem exists_of_succeeds {x : EStateM.Result ε σ α} (h : succeeds x = true) :
    ∃ a t, x = .ok a t := by
  cases x with
  | ok a t => exact ⟨a, t, rfl⟩
  | error e t => cases h

theorem exists_of_not_succeeds {x : EStateM.Result ε σ α} (h : succeeds x = false) :
    ∃ e t, x = .error e t := by
  cases x with
  | ok a t => cases h
  | error e t => exact ⟨e, t, rfl⟩

theorem bind_ok {x : EStateM ε σ α} {f : α → EStateM ε σ β} {s u : σ} {b : β} :
    (x >>= f) s = .ok b u ↔ ∃ a t, x s = .ok a t ∧ f a t = .ok b u := by
  change EStateM.bind x f s = _ ↔ _
  unfold EStateM.bind
  cases x s <;> simp [and_assoc]

theorem bind_error {x : EStateM ε σ α} {f : α → EStateM ε σ β} {s u : σ} {e : ε} :
    (x >>= f) s = .error e u ↔
      x s = .error e u ∨ ∃ a t, x s = .ok a t ∧ f a t = .error e u := by
  change EStateM.bind x f s = _ ↔ _
  unfold EStateM.bind
  cases x s <;> simp [and_assoc]

theorem pure_ok {a b : α} {s t : σ} :
    (pure a : EStateM ε σ α) s = .ok b t ↔ a = b ∧ s = t := by
  change EStateM.Result.ok a s = _ ↔ _
  simp

theorem throw_error {e e' : ε} {s t : σ} :
    (throw e : EStateM ε σ α) s = .error e' t ↔ e = e' ∧ s = t := by
  change EStateM.Result.error e s = _ ↔ _
  simp

@[simp] theorem pure_not_error {a : α} {e : ε} {s t : σ} :
    (pure a : EStateM ε σ α) s ≠ .error e t := nofun

@[simp] theorem throw_not_ok {e : ε} {a : α} {s t : σ} :
    (throw e : EStateM ε σ α) s ≠ .ok a t := nofun

/-- What follows a computation that succeeds. -/
theorem bind_of_ok {x : EStateM ε σ α} {f : α → EStateM ε σ β} {s t : σ} {a : α}
    (h : x s = .ok a t) : (x >>= f) s = f a t := by
  change EStateM.bind x f s = _
  rw [EStateM.bind, h]

theorem bind_of_error {x : EStateM ε σ α} {f : α → EStateM ε σ β} {s t : σ} {e : ε}
    (h : x s = .error e t) : (x >>= f) s = .error e t := by
  change EStateM.bind x f s = _
  rw [EStateM.bind, h]

/-- A computation done for each of a list that leaves the state alone. -/
theorem mapM_of_ok {f : α → EStateM ε σ β} {g : α → β} {s : σ} (l : List α)
    (h : ∀ a ∈ l, f a s = .ok (g a) s) : l.mapM f s = .ok (l.map g) s := by
  induction l with
  | nil => rfl
  | cons a l ih =>
    rw [List.mapM_cons, bind_of_ok (h a List.mem_cons_self),
      bind_of_ok (ih fun b hb => h b (List.mem_cons_of_mem a hb))]
    rfl

/-! ## Moving along a preorder -/

/-- The computation takes every state to one further along `R`. -/
def Steps (R : σ → σ → Prop) (act : EStateM ε σ α) : Prop := ∀ s, R s (endState (act s))

variable {R : σ → σ → Prop} [IsPreorder σ R]

theorem steps_pure (a : α) : Steps R (pure a : EStateM ε σ α) := fun s => refl_of R s

theorem steps_throw (e : ε) : Steps R (throw e : EStateM ε σ α) := fun s => refl_of R s

theorem steps_bind {x : EStateM ε σ α} {f : α → EStateM ε σ β} (hx : Steps R x)
    (hf : ∀ a, Steps R (f a)) : Steps R (x >>= f) := by
  intro s
  have hs := hx s
  cases h : x s with
  | ok a t =>
    rw [bind_of_ok h]
    rw [h] at hs
    exact trans_of R hs (hf a t)
  | error e t =>
    rw [bind_of_error h]
    rw [h] at hs
    exact hs

theorem steps_mapM {f : α → EStateM ε σ β} (hf : ∀ a, Steps R (f a)) (l : List α) :
    Steps R (l.mapM f) := by
  induction l with
  | nil => exact steps_pure []
  | cons a l ih =>
    rw [List.mapM_cons]
    exact steps_bind (hf a) fun b => steps_bind ih fun bs => steps_pure (b :: bs)

theorem steps_forM {f : α → EStateM ε σ PUnit} {l : List α} (hf : ∀ a ∈ l, Steps R (f a)) :
    Steps R (l.forM f) := by
  induction l with
  | nil => exact steps_pure PUnit.unit
  | cons a l ih =>
    exact steps_bind (hf a List.mem_cons_self) fun _ =>
      ih fun b hb => hf b (List.mem_cons_of_mem a hb)

/-- Keeping a property of the state is a preorder. -/
instance keepsPreorder (I : σ → Prop) : IsPreorder σ (fun s t => I s → I t) where
  refl _ h := h
  trans _ _ _ h h' hs := h' (h hs)

end Sequences

/-! ## Calls of the store -/

/-- An operation of the store that does nothing when it fails. -/
def Atomic {α : Type} (act : StoreM α) : Prop := ∀ s e t, act s = .error e t → t = s

namespace Registry

variable {α β : Type} {r t : Registry}

theorem call_ok {op : Operation} {act : StoreM α} {a : α} (h : call op act r = .ok a t) :
    act r.store = .ok a t.store ∧ t.outages = r.outages := by
  unfold call at h
  split at h
  · cases h
  · split at h
    · rename_i hact
      cases h
      exact ⟨hact, rfl⟩
    · cases h

theorem call_error {op : Operation} {act : StoreM α} {e : StoreError}
    (h : call op act r = .error e t) :
    t.outages.Sublist r.outages ∧ (t.store = r.store ∨ act r.store = .error e t.store) := by
  unfold call at h
  split at h
  · cases h
    exact ⟨List.erase_sublist, .inl rfl⟩
  · split at h
    · cases h
    · rename_i hact
      cases h
      exact ⟨List.Sublist.refl _, .inr hact⟩

theorem failingAs_ok {report : StoreError → RegistryError} {act : Access α} {a : α} :
    failingAs report act r = .ok a t ↔ act r = .ok a t := by
  unfold failingAs
  cases act r <;> simp

theorem failingAs_error {report : StoreError → RegistryError} {act : Access α}
    {e : RegistryError} :
    failingAs report act r = .error e t ↔ ∃ e', act r = .error e' t ∧ report e' = e := by
  unfold failingAs
  cases act r <;> simp [and_comm]

theorem use_ok {op : Operation} {act : StoreM α} {a : α} (h : use op act r = .ok a t) :
    act r.store = .ok a t.store ∧ t.outages = r.outages := call_ok (failingAs_ok.1 h)

theorem need_ok {what : String} {op : Operation} {act : StoreM α} {a : α}
    (h : need what op act r = .ok a t) : act r.store = .ok a t.store ∧ t.outages = r.outages :=
  call_ok (failingAs_ok.1 h)

theorem attempt_ok {op : Operation} {act : StoreM α} {x : Option α}
    (h : attempt op act r = .ok x t) :
    (∃ a, x = some a ∧ act r.store = .ok a t.store ∧ t.outages = r.outages) ∨
      ∃ e, x = none ∧ call op act r = .error e t := by
  unfold attempt at h
  split at h
  · rename_i a _ hcall
    cases h
    exact .inl ⟨a, rfl, call_ok hcall⟩
  · rename_i e _ hcall
    cases h
    exact .inr ⟨e, rfl, hcall⟩

/-! ## Services along a relation of stores -/

/-- The store moved along `R`, and no outage was added. -/
def Along (R : Store → Store → Prop) (r t : Registry) : Prop :=
  R r.store t.store ∧ t.outages.Sublist r.outages

instance alongPreorder (R : Store → Store → Prop) [IsPreorder Store R] :
    IsPreorder Registry (Along R) where
  refl r := ⟨refl_of R r.store, List.Sublist.refl _⟩
  trans _ _ _ h h' := ⟨trans_of R h.1 h'.1, h'.2.trans h.2⟩

section Along

variable {R : Store → Store → Prop} [IsPreorder Store R]

theorem steps_call {op : Operation} {act : StoreM α} (h : Steps R act) :
    Steps (Along R) (call op act) := by
  intro r
  have hs := h r.store
  cases hc : call op act r with
  | ok a t =>
    obtain ⟨hact, hout⟩ := call_ok hc
    rw [hact] at hs
    exact ⟨hs, hout ▸ List.Sublist.refl _⟩
  | error e t =>
    obtain ⟨hout, hstore | hact⟩ := call_error hc
    · exact ⟨hstore ▸ refl_of R r.store, hout⟩
    · rw [hact] at hs
      exact ⟨hs, hout⟩

omit [IsPreorder Store R] in
theorem steps_failingAs {report : StoreError → RegistryError} {act : Access α}
    (h : Steps (Along R) act) : Steps (Along R) (failingAs report act) := by
  intro r
  have hs := h r
  unfold failingAs
  cases hact : act r <;> rw [hact] at hs <;> exact hs

theorem steps_use {op : Operation} {act : StoreM α} (h : Steps R act) :
    Steps (Along R) (use op act) := steps_failingAs (steps_call h)

theorem steps_need {what : String} {op : Operation} {act : StoreM α} (h : Steps R act) :
    Steps (Along R) (need what op act) := steps_failingAs (steps_call h)

theorem steps_attempt {op : Operation} {act : StoreM α} (h : Steps R act) :
    Steps (Along R) (attempt op act) := by
  intro r
  have hs : Along R r (endState (call op act r)) := steps_call h r
  unfold attempt
  cases hact : call op act r <;> rw [hact] at hs <;> exact hs

theorem steps_orElse {e : RegistryError} {x : Option α} : Steps (Along R) (orElse e x) := by
  cases x with
  | none => exact steps_throw e
  | some a => exact steps_pure a

end Along

/-! ## Services that only look, and services that fail without a trace -/

/-- The service writes nothing, whether it succeeds or fails. -/
def Reads (act : Service α) : Prop := Steps (Along Eq) act

/-- The service does not fail. -/
def Total (act : Service α) : Prop := ∀ r e t, act r ≠ .error e t

/-- The service writes nothing when it fails. -/
def Spares (act : Service α) : Prop := ∀ r e t, act r = .error e t → t.store = r.store

theorem Reads.ok {act : Service α} (h : Reads act) {a : α} (hr : act r = .ok a t) :
    t.store = r.store ∧ t.outages.Sublist r.outages := by
  have := h r
  rw [hr] at this
  exact ⟨this.1.symm, this.2⟩

theorem Reads.spares {act : Service α} (h : Reads act) : Spares act := by
  intro r e t hr
  have := h r
  rw [hr] at this
  exact this.1.symm

theorem Total.spares {act : Service α} (h : Total act) : Spares act :=
  fun r e t hr => absurd hr (h r e t)

theorem Spares.after_reads {x : Service α} {f : α → Service β} (hx : Reads x)
    (hf : ∀ a, Spares (f a)) : Spares (x >>= f) := by
  intro r e u h
  rcases bind_error.1 h with h | ⟨a, t, hok, herr⟩
  · exact hx.spares r e u h
  · exact (hf a t e u herr).trans (hx.ok hok).1

theorem Spares.before_total {x : Service α} {f : α → Service β} (hx : Spares x)
    (hf : ∀ a, Total (f a)) : Spares (x >>= f) := by
  intro r e u h
  rcases bind_error.1 h with h | ⟨a, t, -, herr⟩
  · exact hx r e u h
  · exact absurd herr (hf a t e u)

theorem Total.bind {x : Service α} {f : α → Service β} (hx : Total x) (hf : ∀ a, Total (f a)) :
    Total (x >>= f) := by
  intro r e u h
  rcases bind_error.1 h with h | ⟨a, t, -, herr⟩
  · exact hx r e u h
  · exact hf a t e u herr

theorem total_pure (a : α) : Total (pure a) := fun _ _ _ => pure_not_error

theorem total_attempt (op : Operation) (act : StoreM α) : Total (attempt op act) := by
  intro r e t h
  unfold attempt at h
  split at h <;> cases h

theorem spares_failingAs {report : StoreError → RegistryError} {op : Operation} {act : StoreM α}
    (h : Atomic act) : Spares (failingAs report (call op act)) := by
  intro r e t hr
  obtain ⟨e', hcall, -⟩ := failingAs_error.1 hr
  rcases (call_error hcall).2 with hs | hact
  · exact hs
  · exact h _ _ _ hact

/-! ## Registries in which no outage waits -/

theorem call_calm (op : Operation) (act : StoreM α) (s : Store) :
    call op act ⟨s, []⟩ = match act s with
      | .ok a t => .ok a ⟨t, []⟩
      | .error e t => .error e ⟨t, []⟩ := rfl

theorem use_calm (op : Operation) (act : StoreM α) (s : Store) :
    use op act ⟨s, []⟩ = match act s with
      | .ok a t => .ok a ⟨t, []⟩
      | .error e t => .error (.ofStore e) ⟨t, []⟩ := by
  unfold use failingAs
  rw [call_calm]
  cases act s <;> rfl

theorem need_calm (what : String) (op : Operation) (act : StoreM α) (s : Store) :
    need what op act ⟨s, []⟩ = match act s with
      | .ok a t => .ok a ⟨t, []⟩
      | .error e t => .error (.ofMissing what e) ⟨t, []⟩ := by
  unfold need failingAs
  rw [call_calm]
  cases act s <;> rfl

theorem attempt_calm (op : Operation) (act : StoreM α) (s : Store) :
    attempt op act ⟨s, []⟩ = match act s with
      | .ok a t => .ok (some a) ⟨t, []⟩
      | .error _ t => .ok none ⟨t, []⟩ := by
  unfold attempt
  rw [call_calm]
  cases act s <;> rfl

end Registry

end BuildRegistry
