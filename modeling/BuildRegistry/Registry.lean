import BuildRegistry.Registry.Error
import BuildRegistry.Store.Deployments
import BuildRegistry.Store.Keys
import BuildRegistry.Store.Listing

/-
  The registry: a store and the outages that wait for it. An outage makes the next call of one
  operation fail once, whatever the state, and nothing else happens in that call. Services run on
  a registry and report the failures of the store as their own.
-/

namespace BuildRegistry

/-- The operations of the store. -/
inductive Operation where
  | migrate
  | createPackage
  | getPackage
  | getPackageById
  | getPackageVersions
  | listPackages
  | deletePackage
  | packageExists
  | getPackageOwner
  | setPackageOwner
  | publish
  | createContract
  | getContract
  | listContracts
  | storeArtifact
  | getArtifact
  | getArtifactByHash
  | listArtifacts
  | recordDeployment
  | getDeployment
  | listDeployments
  | updateVerificationStatus
  | createApiKey
  | validateApiKey
  | listApiKeys
  | revokeApiKey
deriving DecidableEq, Repr

/-- A failure to come of an operation. -/
structure Outage where
  operation : Operation
  error : StoreError
deriving DecidableEq, Repr

structure Registry where
  store : Store
  outages : List Outage
deriving DecidableEq, Repr

/-- What an operation takes from outside: the time, fresh identifiers, and a fresh secret. -/
structure Supply where
  now : Time
  id : Nat → String
  secret : String

/-- Calls of the store's operations. -/
abbrev Access := EStateM StoreError Registry

abbrev Service := EStateM RegistryError Registry

namespace Registry

def empty : Registry := ⟨.empty, []⟩

/-- Lets an outage wait for its operation, in place of any that waits already. -/
def await (o : Outage) (r : Registry) : Registry :=
  { r with outages := r.outages.filter (·.operation ≠ o.operation) ++ [o] }

/-- Carries out an operation of the store, or fails with the outage that waits for it. -/
def call {α : Type} (op : Operation) (act : StoreM α) : Access α := fun r =>
  match r.outages.find? (·.operation = op) with
  | some o => .error o.error { r with outages := r.outages.erase o }
  | none =>
    match act r.store with
    | .ok a s => .ok a { r with store := s }
    | .error e s => .error e { r with store := s }

/-- A step of a service, with the failures of the store reported as the services do. -/
def failingAs {α : Type} (report : StoreError → RegistryError) (act : Access α) : Service α :=
  fun r =>
    match act r with
    | .ok a r => .ok a r
    | .error e r => .error (report e) r

/-- An operation of the store whose failures come through. -/
def use {α : Type} (op : Operation) (act : StoreM α) : Service α :=
  failingAs .ofStore (call op act)

/-- An operation of the store whose missing row means that `what` does not exist. -/
def need {α : Type} (what : String) (op : Operation) (act : StoreM α) : Service α :=
  failingAs (.ofMissing what) (call op act)

/-- Carries out an operation whose failure is of no consequence. -/
def attempt {α : Type} (op : Operation) (act : StoreM α) : Service (Option α) := fun r =>
  match call op act r with
  | .ok a r => .ok (some a) r
  | .error _ r => .ok none r

def orElse {α : Type} (e : RegistryError) : Option α → Service α
  | some a => pure a
  | none => throw e

end Registry

end BuildRegistry
