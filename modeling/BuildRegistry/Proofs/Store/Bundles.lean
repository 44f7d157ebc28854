import BuildRegistry.Proofs.Store.Commands

/-
  Bundles and the single operations that they stand for. `Bundle.commands` spells a bundle out: its
  package is created, then each contract, followed by its outputs. `Succeed sup s cs t` says that
  commands succeed one after the other and lead from `s` to `t`, `FailFirst sup s cs e` that one of
  them fails, the first with the error `e`. Both pass from the parts of a sequence to the whole, so
  an operation made of smaller ones is `DoneBy` the commands of its parts, put one after the other.

  Nothing is asked of the store or of the bundle: its rows may have any ids, refer to rows of other
  packages, or overwrite each other.

  Main statement (`publish_refines_commands`): a bundle is published exactly when its commands all
  succeed, with the store in which they end; otherwise the answer is the error of the first one that
  fails, and the store is the one from before, where the commands would have stopped half-way.
-/

namespace BuildRegistry

def ContractBundle.commands (d : ContractBundle) : List Store.Command :=
  .createContract d.contract :: d.artifacts.map .storeArtifact

/-- The single operations that a bundle stands for. -/
def Bundle.commands (b : Bundle) : List Store.Command :=
  .createPackage b.package :: b.contracts.flatMap (·.commands)

namespace Store

variable {sup : Supply} {s t u : Store} {c : Command} {cs ds : List Command} {e : StoreError}

/-! ## Commands one after the other -/

/-- All commands succeed. -/
inductive Succeed (sup : Supply) : Store → List Command → Store → Prop where
  | nil (s : Store) : Succeed sup s [] s
  | cons {s t u : Store} {c : Command} {cs : List Command} (first : c.run sup s = .ok () t)
      (rest : Succeed sup t cs u) : Succeed sup s (c :: cs) u

/-- Some command fails, and the first that does fails with that error. -/
inductive FailFirst (sup : Supply) : Store → List Command → StoreError → Prop where
  | here {s t : Store} {c : Command} {cs : List Command} {e : StoreError}
      (first : c.run sup s = .error e t) : FailFirst sup s (c :: cs) e
  | later {s t : Store} {c : Command} {cs : List Command} {e : StoreError}
      (first : c.run sup s = .ok () t) (rest : FailFirst sup t cs e) : FailFirst sup s (c :: cs) e

theorem succeed_cons : Succeed sup s (c :: cs) u ↔
    ∃ t, c.run sup s = .ok () t ∧ Succeed sup t cs u :=
  ⟨fun | .cons first rest => ⟨_, first, rest⟩, fun ⟨_, first, rest⟩ => .cons first rest⟩

theorem failFirst_cons : FailFirst sup s (c :: cs) e ↔
    (∃ t, c.run sup s = .error e t) ∨ ∃ t, c.run sup s = .ok () t ∧ FailFirst sup t cs e := by
  constructor
  · rintro (⟨first⟩ | ⟨first, rest⟩)
    · exact .inl ⟨_, first⟩
    · exact .inr ⟨_, first, rest⟩
  · rintro (⟨t, first⟩ | ⟨t, first, rest⟩)
    · exact .here first
    · exact .later first rest

theorem succeed_append :
    Succeed sup s (cs ++ ds) u ↔ ∃ t, Succeed sup s cs t ∧ Succeed sup t ds u := by
  induction cs generalizing s with
  | nil => exact ⟨fun h => ⟨s, .nil s, h⟩, fun ⟨_, .nil _, h⟩ => h⟩
  | cons c cs ih =>
    simp only [List.cons_append, succeed_cons, ih]
    constructor
    · rintro ⟨s', first, t, rest, h⟩
      exact ⟨t, ⟨s', first, rest⟩, h⟩
    · rintro ⟨t, ⟨s', first, rest⟩, h⟩
      exact ⟨s', first, t, rest, h⟩

theorem failFirst_append : FailFirst sup s (cs ++ ds) e ↔
    FailFirst sup s cs e ∨ ∃ t, Succeed sup s cs t ∧ FailFirst sup t ds e := by
  induction cs generalizing s with
  | nil =>
    constructor
    · exact fun h => .inr ⟨s, .nil s, h⟩
    · rintro (hnone | ⟨_, hnil, h⟩)
      · cases hnone
      · cases hnil
        exact h
  | cons c cs ih =>
    simp only [List.cons_append, failFirst_cons, succeed_cons, ih]
    constructor
    · rintro (hc | ⟨s', first, hcs | ⟨t, rest, h⟩⟩)
      · exact .inl (.inl hc)
      · exact .inl (.inr ⟨s', first, hcs⟩)
      · exact .inr ⟨t, ⟨s', first, rest⟩, h⟩
    · rintro ((hc | ⟨s', first, hcs⟩) | ⟨t, ⟨s', first, rest⟩, h⟩)
      · exact .inl hc
      · exact .inr ⟨s', first, .inl hcs⟩
      · exact .inr ⟨s', first, .inr ⟨t, rest, h⟩⟩

/-! ## Operations that do what commands do -/

/-- The operation succeeds when the commands do, with the store in which they end, and fails as the
first of them that fails. -/
structure DoneBy (sup : Supply) (act : StoreM Unit) (cs : List Command) : Prop where
  ok : ∀ s t, act s = .ok () t ↔ Succeed sup s cs t
  error : ∀ s e, (∃ t, act s = .error e t) ↔ FailFirst sup s cs e

variable {act act' : StoreM Unit}

theorem doneBy_nil : DoneBy sup (pure ()) [] where
  ok s t := by
    constructor
    · rintro ⟨⟩
      exact .nil s
    · rintro ⟨⟩
      rfl
  error s e := by
    constructor
    · rintro ⟨t, ⟨⟩⟩
    · rintro ⟨⟩

theorem doneBy_command (c : Command) : DoneBy sup (c.run sup) [c] where
  ok s t := by
    rw [succeed_cons]
    constructor
    · exact fun h => ⟨t, h, .nil t⟩
    · rintro ⟨_, h, ⟨⟩⟩
      exact h
  error s e := by
    rw [failFirst_cons]
    constructor
    · exact .inl
    · rintro (h | ⟨_, -, ⟨⟩⟩)
      exact h

/-- One operation after another is done by the commands of the first and then of the second. -/
theorem DoneBy.append (h : DoneBy sup act cs) (h' : DoneBy sup act' ds) :
    DoneBy sup (act >>= fun _ => act') (cs ++ ds) where
  ok s u := by
    rw [bind_ok, succeed_append]
    constructor
    · rintro ⟨⟨⟩, t, ht, hu⟩
      exact ⟨t, (h.ok s t).1 ht, (h'.ok t u).1 hu⟩
    · rintro ⟨t, ht, hu⟩
      exact ⟨(), t, (h.ok s t).2 ht, (h'.ok t u).2 hu⟩
  error s e := by
    rw [failFirst_append, ← h.error]
    constructor
    · rintro ⟨u, hu⟩
      rcases bind_error.1 hu with hu | ⟨⟨⟩, t, ht, hu⟩
      · exact .inl ⟨u, hu⟩
      · exact .inr ⟨t, (h.ok s t).1 ht, (h'.error t e).1 ⟨u, hu⟩⟩
    · rintro (⟨u, hu⟩ | ⟨t, ht, hu⟩)
      · exact ⟨u, bind_error.2 (.inl hu)⟩
      · obtain ⟨u, hu⟩ := (h'.error t e).2 hu
        exact ⟨u, bind_error.2 (.inr ⟨(), t, (h.ok s t).2 ht, hu⟩)⟩

/-- A loop is done by the commands of its rounds. -/
theorem doneBy_forM {α : Type} {f : α → StoreM Unit} {g : α → List Command}
    (h : ∀ a, DoneBy sup (f a) (g a)) (l : List α) : DoneBy sup (l.forM f) (l.flatMap g) := by
  induction l with
  | nil => exact doneBy_nil
  | cons a l ih => exact (h a).append ih

/-! ## Bundles -/

/-- The lookup that follows an output into the store changes nothing and cannot fail. -/
theorem quietly_storeArtifact (a : Artifact) : quietly (storeArtifact a) = putArtifact a := by
  funext s
  cases hput : putArtifact a s with
  | error e t => exact bind_of_error (bind_of_error hput)
  | ok w t =>
    obtain ⟨b, hb⟩ := Option.isSome_iff_exists.1 (putArtifact_found hput)
    have hget : getArtifact a.contractId a.kind t = .ok b t := by rw [getArtifact_run, hb]
    exact bind_of_ok ((bind_of_ok hput).trans hget)

theorem doneBy_putArtifact (a : Artifact) : DoneBy sup (putArtifact a) [.storeArtifact a] := by
  have h : DoneBy sup ((Command.storeArtifact a).run sup) [.storeArtifact a] := doneBy_command _
  rwa [Command.run, quietly_storeArtifact] at h

theorem doneBy_insertContractBundle (d : ContractBundle) :
    DoneBy sup (insertContractBundle d) d.commands := by
  have houtputs : DoneBy sup (d.artifacts.forM putArtifact)
      (d.artifacts.flatMap fun a => [.storeArtifact a]) := doneBy_forM doneBy_putArtifact _
  rw [← List.map_eq_flatMap] at houtputs
  exact (doneBy_command (.createContract d.contract)).append houtputs

theorem doneBy_insertBundle (b : Bundle) : DoneBy sup (insertBundle b) b.commands :=
  (doneBy_command (.createPackage b.package)).append (doneBy_forM doneBy_insertContractBundle _)

theorem publish_error {b : Bundle} :
    publish b s = .error e t ↔ t = s ∧ ∃ u, insertBundle b s = .error e u := by
  unfold publish transaction
  cases insertBundle b s with
  | ok w u => simp
  | error e' u => simp [and_comm, eq_comm]

/-- A bundle is published when the operations that it stands for all succeed, and then the store is
the one in which they end. Otherwise it is refused with the error of the first of them that fails,
and the store is as it was. -/
theorem publish_refines_commands (sup : Supply) (b : Bundle) (s : Store) :
    (∀ t, (Command.publish b).run sup s = .ok () t ↔ Succeed sup s b.commands t) ∧
      ∀ e t, (Command.publish b).run sup s = .error e t ↔
        FailFirst sup s b.commands e ∧ t = s := by
  have hbundle : DoneBy sup (insertBundle b) b.commands := doneBy_insertBundle b
  refine ⟨fun t => publish_ok.trans (hbundle.ok s t), fun e t => ?_⟩
  rw [← hbundle.error s e, and_comm]
  exact publish_error

end Store

end BuildRegistry
