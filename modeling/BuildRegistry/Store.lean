import BuildRegistry.Records
import BuildRegistry.Store.Error

/-
  The store: six lists of rows, in the order they were written. An operation either succeeds with
  a new state or fails and leaves the state it found; `transaction` gives this property to a
  sequence of them.
-/

namespace BuildRegistry

structure Store where
  packages : List Package
  owners : List Owner
  contracts : List Contract
  artifacts : List Artifact
  deployments : List Deployment
  keys : List ApiKey
deriving DecidableEq, Repr

def Store.empty : Store := ⟨[], [], [], [], [], []⟩

abbrev StoreM := EStateM StoreError Store

namespace Store

def fail {α : Type} (entry : String) (cause : Cause) : StoreM α := throw (.ofCause entry cause)

/-- The row found, or its absence as a failure. -/
def found {α : Type} (entry : String) : Option α → StoreM α
  | some a => pure a
  | none => fail entry .noRow

/-- Runs an operation that takes back all it did when it fails. -/
def transaction {α : Type} (act : StoreM α) : StoreM α := fun s =>
  match act s with
  | .ok a t => .ok a t
  | .error e _ => .error e s

/-- The first row by a text key, that of the earliest written among equals. -/
def least? {α : Type} (compareRows : α → α → Ordering) : List α → Option α
  | [] => none
  | r :: rs => some (rs.foldl (fun best x => if compareRows x best = .lt then x else best) r)

/-- The rows in ascending order; equal ones stay as they are. -/
def inOrder {α : Type} (compareRows : α → α → Ordering) (rows : List α) : List α :=
  rows.mergeSort fun a b => (compareRows a b).isLE

end Store

end BuildRegistry
