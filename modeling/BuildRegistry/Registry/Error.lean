import BuildRegistry.Store.Error
import BuildRegistry.Tar

/-
  Failures of the registry's services, with their texts and the status of the HTTP answer that
  reports them. Failures of the store come through as they are, but for duplicates and cursors.
-/

namespace BuildRegistry

inductive RegistryError where
  | notFound (what : String)
  | invalidName (name : String)
  | invalidVersion (version : String)
  | invalidAddress (address : String)
  | invalidChainId (chainId : Int)
  | invalidRequest (reason : String)
  | versionExists (name version : String)
  | alreadyExists (entry : String)
  | forbidden (name : String)
  | chainNotFound (chain : String)
  | archiveFailed (detail : String)
  | storage (error : StoreError)
deriving DecidableEq, Repr

namespace RegistryError

def message : RegistryError → String
  | .notFound what => "Not found: " ++ what
  | .invalidName name => "Invalid package name: " ++ name
  | .invalidVersion version => "Invalid version: " ++ version
  | .invalidAddress address => "Invalid address: " ++ address
  | .invalidChainId chainId => "Invalid chain ID: " ++ toString chainId
  | .invalidRequest reason => "Invalid request: " ++ reason
  | .versionExists name version => "Version " ++ version ++ " of " ++ name ++ " already exists"
  | .alreadyExists entry => "Already exists: " ++ entry
  | .forbidden name => "Not authorized to modify package " ++ name
  | .chainNotFound chain => "No verifier registered for chain " ++ chain
  | .archiveFailed detail => "Failed to build archive: " ++ detail
  | .storage error => error.message

def ofStore : StoreError → RegistryError
  | .alreadyExists entry => .alreadyExists entry
  | .invalidCursor cursor => .invalidRequest ("invalid cursor " ++ cursor)
  | error => .storage error

/-- The failure of an operation whose missing row means that `what` does not exist. -/
def ofMissing (what : String) : StoreError → RegistryError
  | .notFound _ => .notFound what
  | error => ofStore error

def status : RegistryError → Nat
  | .notFound _ => 404
  | .versionExists _ _ | .alreadyExists _ => 409
  | .forbidden _ => 403
  | .archiveFailed _ | .storage _ => 500
  | _ => 400

end RegistryError

/-- What a request to the server may fail with. -/
inductive ApiError where
  | service (error : RegistryError)
  | storage (error : StoreError)
  | badRequest (reason : String)
deriving DecidableEq, Repr

namespace ApiError

def message : ApiError → String
  | .service error => error.message
  | .storage error => "Database error: " ++ error.message
  | .badRequest reason => reason

def status : ApiError → Nat
  | .service error => error.status
  | .storage (.notFound _) => 404
  | .storage (.invalidCursor _) => 400
  | .storage _ => 500
  | .badRequest _ => 400

end ApiError

end BuildRegistry
