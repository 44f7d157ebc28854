import BuildRegistry.Http.Route
import BuildRegistry.Registry.Publishing
import BuildRegistry.Views

/-
  The server: one answer to each request. Credentials are checked before anything else of a
  request is read. A refusal is described by a document where the server has one for its status,
  and by a page otherwise.
-/

namespace BuildRegistry.Http

/-- What the server knows besides the registry. -/
structure Server where
  adminToken : Option String
  chains : Chains

/-- Why a request is not answered as asked: a failure of the service, or a status of the server's
own. -/
inductive Refusal where
  | failed (e : ApiError)
  | status (code : Nat)
deriving DecidableEq, Repr

abbrev Handler := EStateM Refusal Registry

/-! Parts of requests -/

def service {α : Type} (act : Service α) : Handler α := fun r =>
  match act r with
  | .ok a r => .ok a r
  | .error e r => .error (.failed (.service e)) r

def storage {α : Type} (act : Access α) : Handler α := fun r =>
  match act r with
  | .ok a r => .ok a r
  | .error e r => .error (.failed (.storage e)) r

def unauthorized : Nat := 401

def forbidden : Nat := 403

def notFound : Nat := 404

/-- The key of a request, marked as used. -/
def keyHolder (s : Supply) (r : Request) : Handler ApiKey := fun reg =>
  match r.bearer? with
  | none => .error (.status unauthorized) reg
  | some secret =>
    match Registry.call .validateApiKey (Store.useKey secret s.now) reg with
    | .ok key reg => .ok key reg
    | .error e reg => .error (.status (if e.isNotFound then unauthorized else 500)) reg

def administrator (srv : Server) (r : Request) : Handler Unit :=
  match srv.adminToken with
  | none => throw (.status forbidden)
  | some token => if r.bearer? = some token then pure () else throw (.status unauthorized)

/-- Checks the credential that a route asks for. It answers the identity of the key's holder. -/
def authorize (srv : Server) (s : Supply) (r : Request) : Guard → Handler String
  | .anyone => return ""
  | .keyHolder => return (← keyHolder s r).id
  | .administrator => do
    administrator srv r
    return ""

/-- A body that was read, or the status of its fault. -/
def bodyOf {α : Type} (parsed : Except Json.Fault α) : Handler α :=
  match parsed with
  | .ok a => pure a
  | .error .misshapen => throw (.status 422)
  | .error _ => throw (.status 400)

/-- The number in a path. -/
def numberOf (s : String) : Handler Int :=
  match Decimal.int64? s.toList with
  | some n => pure n
  | none => throw (.status 422)

def pageRequest (q : Query.Fields) : PageRequest := ⟨Query.text? q "cursor", Query.int? q "limit"⟩

def packageFilter (q : Query.Fields) : PackageFilter :=
  ⟨Query.text? q "search", Query.text? q "chain", Query.text? q "project",
    Query.text? q "version", Query.text? q "contract"⟩

def deploymentQuery (q : Query.Fields) : DeploymentQuery :=
  ⟨Query.text? q "chain", Query.int? q "chain_id", Query.text? q "package",
    Query.text? q "version", Query.flag? q "verified"⟩

def prereleases (q : Query.Fields) : Bool := (Query.flag? q "prerelease").getD false

def defaultChain : String := "evm"

def chainOf (q : Query.Fields) : String := (Query.text? q "chain").getD defaultChain

/-! Answers -/

def shown (j : Json) : Response := .document 200 j

/-- The answer of a request that has nothing to show. -/
def done : Response := shown .null

def artifactAnswer (k : ArtifactKind) (a : Artifact) : Response :=
  ⟨200, if k.isJson then jsonType else textType, none, .bytes a.content⟩

def archiveAnswer (p : Package) (data : Bytes) : Response :=
  ⟨200, archiveType, some ("attachment; filename=\"" ++ Archive.root p ++ ".tar.gz\""),
    .archive data⟩

def kindOf (name : String) : Handler ArtifactKind :=
  match ArtifactKind.ofName? name with
  | some k => pure k
  | none => throw (.failed (.badRequest ("unknown artifact type: " ++ name)))

/-- Follows a route for the identity that was let through to it. -/
def answer (srv : Server) (s : Supply) (r : Request) (identity : String) : Route → Handler Response
  | .packages => do
    return shown ((← service (Registry.list (packageFilter r.fields) (pageRequest r.fields))).json
      PackageSummary.json)
  | .versions name => do
    let vs ← service (Registry.versions name (prereleases r.fields))
    return shown (.object [("name", .str name), ("versions", .texts vs)])
  | .package name version => do
    return shown (← service (Registry.package name version (prereleases r.fields))).json
  | .publish name version => do
    let request ← bodyOf (PublishRequest.parse r.body)
    return shown (← service (Registry.publish s name version identity request)).json
  | .deletePackage name version => do
    service (Registry.delete name version identity)
    return done
  | .contracts name version => do
    return shown (.arr ((← service (Registry.contracts name version)).map ContractDetails.json))
  | .contract name version contract => do
    return shown (← service (Registry.contract name version contract)).json
  | .artifact name version contract kind => do
    let k ← kindOf kind
    return artifactAnswer k (← service (Registry.artifact name version contract k))
  | .archive name version => do
    let (p, data) ← service (Registry.archive name version)
    return archiveAnswer p data
  | .packageDeployments name version => do
    return shown ((← service (Registry.deploymentsOf name version (pageRequest r.fields))).json
      Deployment.json)
  | .record => do
    let request ← bodyOf (RecordRequest.parse r.body)
    return shown (← service (Registry.record s request)).json
  | .deployments => do
    return shown ((← service (Registry.deployments (deploymentQuery r.fields)
      (pageRequest r.fields))).json Deployment.json)
  | .deployment chainId address => do
    let n ← numberOf chainId
    return shown (← service (Registry.deployment (chainOf r.fields) n address)).json
  | .setVerification chainId address => do
    let n ← numberOf chainId
    let request ← bodyOf (StatusRequest.parse r.body)
    return shown
      (← service (Registry.setVerification s (chainOf r.fields) n address request)).json
  | .verify => do
    let request ← bodyOf (VerifyRequest.parse r.body)
    return shown (← service (Registry.verify s srv.chains request)).json
  | .createKey => do
    let request ← bodyOf (KeyRequest.parse r.body)
    let key ← storage (Registry.call .createApiKey
      (Store.createKey request.label (s.id 0) s.secret s.now))
    return shown (key.json (some s.secret))
  | .keys => do
    let keys ← storage (Registry.call .listApiKeys Store.listKeys)
    return shown (.object [("apiKeys", .arr (keys.map fun k => k.json none))])
  | .revokeKey id => do
    storage (Registry.call .revokeApiKey (Store.revokeKey id s.now))
    return done
  | .health => return ⟨200, textType, none, .bytes (Bytes.ofString "true")⟩

/-! Refusals -/

/-- The reason and the description that go with a status. -/
def statusText (code : Nat) : String × String :=
  if code = 400 then
    ("Bad Request", "The request could not be understood by the server due to malformed syntax.")
  else if code = 422 then
    ("Unprocessable Entity",
      "The request was well-formed but was unable to be followed due to semantic errors.")
  else if code = 401 then ("Unauthorized", "The request requires user authentication.")
  else if code = 403 then
    ("Forbidden", "The server refused to authorize the request.")
  else if code = 404 then ("Not Found", "The requested resource could not be found.")
  else if code = 409 then
    ("Conflict", "The request could not be processed because of a conflict in the request.")
  else
    ("Internal Server Error", "The server encountered an internal error while processing this request.")

/-- The reason that goes with a status. -/
def reason (code : Nat) : String := (statusText code).1

/-- The answer to a refusal that the server has no document of its own for. -/
def errorPage (r : Request) (code : Nat) : Response :=
  if r.prefersDocuments then
    let (why, description) := statusText code
    .document code (.object [("error",
      .object [("code", .int code), ("reason", .str why), ("description", .str description)])])
  else ⟨code, pageType, none, .page code⟩

def failureMessage (e : ApiError) : String :=
  if e.status = 500 then "Internal server error" else e.message

def refused (r : Request) : Refusal → Response
  | .failed e => .failure e.status (failureMessage e)
  | .status code =>
    if code = unauthorized then .failure code "Missing or invalid API key"
    else if code = forbidden then .failure code "Forbidden"
    else if code = notFound then .failure code ("No route for " ++ r.target)
    else errorPage r code

/-- The route that a request takes. -/
def routeOf (r : Request) : Handler Route :=
  if !r.isWellFormed then throw (.status 400)
  else match Route.of? r.method r.segments with
    | some route => pure route
    | none => throw (.status notFound)

def handle (srv : Server) (s : Supply) (r : Request) : Handler Response := do
  let route ← routeOf r
  let identity ← authorize srv s r route.guard
  answer srv s r identity route

/-- The answer to a request, and the registry after it. The head of an answer has no body, but what
is not well formed asks for nothing and is answered in full. -/
def respond (srv : Server) (s : Supply) (r : Request) (reg : Registry) : Response × Registry :=
  let r := r.asMeant
  let (response, reg) : Response × Registry :=
    match handle srv s r reg with
    | .ok response reg => (response, reg)
    | .error e reg => (refused r e, reg)
  (if r.method = .head && r.isWellFormed then response.withoutBody else response, reg)

end BuildRegistry.Http
