import BuildRegistry.Proofs.Store.Commands

/-
  Histories of a store: commands carried out one after the other, in any order and with any
  arguments. A command that fails is passed over. Each command keeps keys unique and references
  good (`keeps_command`): the checks that a write makes are the conditions that its own row needs,
  an output that is overwritten keeps its keys, and a deletion takes all rows that refer to what
  it takes.

  Main statement: after every history, keys are unique and no row refers to one that is not there
  (`integrity_after_history`).
-/

namespace BuildRegistry.Store

/-- A command together with what it takes from outside. -/
structure Call where
  supply : Supply
  command : Command

/-- The store after a history. -/
def after (s : Store) (history : List Call) : Store :=
  history.foldl (fun s c => endState (c.command.run c.supply s)) s

/-- What every command keeps, a history keeps. -/
theorem after_keeps (I : Store → Prop) (hstep : ∀ sup (c : Command) s, I s → I (endState (c.run sup s)))
    {s : Store} (hs : I s) (history : List Call) : I (s.after history) := by
  induction history generalizing s with
  | nil => exact hs
  | cons c history ih => exact ih (hstep c.supply c.command s hs)

section Steps

variable {R : Store → Store → Prop} [IsPreorder Store R]

theorem steps_quietly {α : Type} {act : StoreM α} (h : Steps R act) : Steps R (quietly act) :=
  steps_bind h fun _ => steps_pure ()

theorem steps_of_looks {α : Type} {act : StoreM α} (h : Steps Eq act) : Steps R act :=
  fun s => h s ▸ refl_of R s

end Steps

theorem keeps_storeArtifact (a : Artifact) : KeepsIntegrity (storeArtifact a) :=
  steps_bind (keeps_putArtifact a) fun _ => steps_of_looks (steps_found _ _)

theorem keeps_command (sup : Supply) (c : Command) : KeepsIntegrity (c.run sup) := by
  have looks : ∀ {α : Type} {act : StoreM α}, Steps Eq act → KeepsIntegrity (quietly act) :=
    fun h => steps_quietly (steps_of_looks h)
  cases c with
  | migrate => exact steps_pure ()
  | createPackage p => exact keeps_insertPackage p
  | deletePackage id => exact keeps_deletePackage id
  | claimName name ownerId => exact steps_quietly (keeps_claimName name ownerId sup.now)
  | publish b => exact keeps_publish b
  | createContract c => exact keeps_insertContract c
  | storeArtifact a => exact steps_quietly (keeps_storeArtifact a)
  | recordDeployment d => exact keeps_recordDeployment d
  | setVerification id verified on => exact steps_quietly (keeps_setVerification id verified on sup.now)
  | createKey label => exact steps_quietly (keeps_createKey label _ _ sup.now)
  | useKey secret => exact steps_quietly (keeps_useKey secret sup.now)
  | revokeKey id => exact keeps_revokeKey id sup.now
  | getPackage => exact looks (steps_found _ _)
  | getPackageById => exact looks (steps_found _ _)
  | getContract => exact looks (steps_found _ _)
  | getArtifact => exact looks (steps_found _ _)
  | getArtifactByHash => exact looks (steps_found _ _)
  | getDeployment => exact looks (steps_found _ _)
  | listDeployments f p => exact looks (steps_listDeployments f p)
  | packageVersions | listPackages | packageExists | packageOwner | listContracts | listArtifacts
  | listKeys => exact looks fun _ => rfl

/-- After every history of an empty store all keys are unique, and every contract, output and
deployment belongs to a row that is there. -/
theorem integrity_after_history (history : List Call) : Integrity (empty.after history) :=
  after_keeps Integrity (fun sup c => keeps_command sup c) integrity_empty history

end BuildRegistry.Store
