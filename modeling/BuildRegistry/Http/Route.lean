import BuildRegistry.Http.Message

/-
  The routes of the server: what a method and a path ask for.
-/

namespace BuildRegistry.Http

/-- What a request asks for. The chain id of a deployment is still text. -/
inductive Route where
  | packages
  | versions (name : String)
  | package (name version : String)
  | publish (name version : String)
  | deletePackage (name version : String)
  | contracts (name version : String)
  | contract (name version contract : String)
  | artifact (name version contract kind : String)
  | archive (name version : String)
  | packageDeployments (name version : String)
  | record
  | deployments
  | deployment (chainId address : String)
  | setVerification (chainId address : String)
  | verify
  | createKey
  | keys
  | revokeKey (id : String)
  | health
deriving DecidableEq, Repr

/-- Who may follow a route: anyone, the holder of a key, or the administrator. -/
inductive Guard where
  | anyone
  | keyHolder
  | administrator
deriving DecidableEq, Repr

namespace Route

def ofGet? : List String → Option Route
  | ["packages"] => some .packages
  | ["packages", n] => some (.versions n)
  | ["packages", n, v] => some (.package n v)
  | ["packages", n, v, "contracts"] => some (.contracts n v)
  | ["packages", n, v, "archive"] => some (.archive n v)
  | ["packages", n, v, "deployments"] => some (.packageDeployments n v)
  | ["packages", n, v, "contracts", c] => some (.contract n v c)
  | ["packages", n, v, "contracts", c, "artifacts", k] => some (.artifact n v c k)
  | ["deployments"] => some .deployments
  | ["deployments", i, a] => some (.deployment i a)
  | ["api_keys"] => some .keys
  | ["health"] => some .health
  | _ => none

def ofPost? : List String → Option Route
  | ["packages", n, v] => some (.publish n v)
  | ["deployments"] => some .record
  | ["verify"] => some .verify
  | ["api_keys"] => some .createKey
  | _ => none

def ofPut? : List String → Option Route
  | ["deployments", i, a, "verification"] => some (.setVerification i a)
  | _ => none

def ofDelete? : List String → Option Route
  | ["packages", n, v] => some (.deletePackage n v)
  | ["api_keys", i] => some (.revokeKey i)
  | _ => none

/-- The route of a method and the segments of a path. A request for the head of an answer follows
the route to the answer. -/
def of? : Method → List String → Option Route
  | .get, path => ofGet? path
  | .head, path => ofGet? path
  | .post, path => ofPost? path
  | .put, path => ofPut? path
  | .delete, path => ofDelete? path
  | .other _, _ => none

def guard : Route → Guard
  | .publish _ _ | .deletePackage _ _ | .record | .setVerification _ _ => .keyHolder
  | .createKey | .keys | .revokeKey _ => .administrator
  | _ => .anyone

end Route

end BuildRegistry.Http
