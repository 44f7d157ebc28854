import BuildRegistry.Registry.Deployments
import BuildRegistry.Verifier

/-
  Verifying that the code at an address is that of a published contract. Trouble with a node is
  reported as an outcome. A match also marks the deployment recorded at the address, if it is one
  of the same package version.
-/

namespace BuildRegistry

inductive VerificationStatus where
  | pending
  | verified
  | unverified
deriving DecidableEq, Repr

def VerificationStatus.text : VerificationStatus → String
  | .pending => "pending"
  | .verified => "verified"
  | .unverified => "unverified"

/-- The outcome of a verification; a pending one has no kind of match yet. -/
structure Verification where
  verified : Bool
  status : VerificationStatus
  matchKind : Option MatchKind
  message : String
  expectedHash : String
deriving DecidableEq, Repr

namespace Verification

def pending (expectedHash : String) : Verification :=
  ⟨false, .pending, none, "No RPC endpoint provided; verification is pending", expectedHash⟩

def ofReport (r : MatchReport) (expectedHash : String) : Verification :=
  ⟨r.isMatch, if r.isMatch then .verified else .unverified, some r.kind, r.message, expectedHash⟩

end Verification

namespace Verifier

/-- What a verifier reports about the code at an address. -/
def report (v : Verifier) (endpoint : Url) (address : String) (expected : Bytes) : MatchReport :=
  match v.deployedCode endpoint address with
  | .error e => .none ("Failed to fetch on-chain bytecode: " ++ e.message)
  | .ok code =>
    if code = [] then .noCode address
    else if expected = [] then .none "Published deployed bytecode is empty"
    else if code = expected then .full
    else match v.compareAt endpoint address expected with
      | .ok r => r
      | .error e => .none ("Verification failed: " ++ e.message)

end Verifier

namespace Registry

/-- The output that a request is about, and its package. -/
def target (r : VerifyRequest) : Service (Package × Artifact) := do
  let p ← exactPackage r.packageName r.version
  let c ← need ("contract " ++ r.contractName ++ " in " ++ p.name ++ "@" ++ p.version)
    .getContract (Store.getContract p.id r.contractName)
  let a ← need ("deployed bytecode of contract " ++ c.name) .getArtifact
    (Store.getArtifact c.id ArtifactKind.deployedBytecode.name)
  return (p, a)

def endpointOf (text : String) : Service Url :=
  match Url.parse text with
  | .ok u => pure u
  | .error e => throw (.invalidRequest ("invalid RPC URL: " ++ e.message))

/-- Marks the deployment recorded at an address as verified at an endpoint, if it belongs to the
package. -/
def markVerified (s : Supply) (p : Package) (chainId : Int) (address : String) (endpoint : Url) :
    Service Unit := do
  match ← attempt .getDeployment (Store.getDeployment p.chain chainId address) with
  | some d =>
    if d.packageId = p.id then
      let _ ← attempt .updateVerificationStatus
        (Store.setVerification d.id true (endpoint.host.map Host.text) s.now)
  | none => pure ()

def verify (s : Supply) (chains : Chains) (r : VerifyRequest) : Service Verification := do
  checkTarget r.chainId r.address
  let address := Text.lowercase r.address
  let (p, a) ← target r
  let verifier ← orElse (.chainNotFound p.chain) (chains.get? p.chain)
  match r.rpcUrl.filter (· ≠ "") with
  | none => return .pending a.contentHash
  | some url =>
    let endpoint ← endpointOf url
    let result := Verification.ofReport
      (verifier.report endpoint address (Bytecode.decode a.content)) a.contentHash
    if result.verified then markVerified s p r.chainId address endpoint
    return result

end Registry

end BuildRegistry
