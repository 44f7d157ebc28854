import BuildRegistry.Json
import BuildRegistry.Registry.Lookup
import BuildRegistry.Registry.Verification

/-
  What clients are shown of the registry's records, as documents. Times are shown by their
  RFC 3339 text, and documents that are stored as text are shown as documents.
-/

namespace BuildRegistry

open Json

def Time.json (t : Time) : Json := .str t.rfc3339

def Package.json (p : Package) : Json :=
  .object [("id", .str p.id), ("name", .str p.name), ("version", .str p.version),
    ("chain", .str p.chain), ("builder", .str p.builder),
    ("compilerVersion", .text? p.compilerVersion), ("compilerSettings", p.settings?.getD .null),
    ("metadata", .textMap p.metadataEntries), ("createdAt", p.createdAt.json)]

def PackageSummary.json (s : PackageSummary) : Json :=
  .object [("name", .str s.name), ("chains", .texts s.chains), ("builders", .texts s.builders),
    ("versions", .texts s.versions), ("latestVersion", .text? s.latestVersion),
    ("updatedAt", s.updatedAt.json)]

def ContractDetails.json (d : ContractDetails) : Json :=
  .object [("name", .str d.contract.name), ("sourcePath", .str d.contract.sourcePath),
    ("contentHash", .str d.contract.contentHash),
    ("artifacts", .texts (d.artifacts.map ArtifactKind.name))]

def Deployment.json (d : Deployment) : Json :=
  .object [("id", .str d.id), ("packageId", .str d.packageId),
    ("contractName", .str d.contractName), ("chain", .str d.chain), ("chainId", .int d.chainId),
    ("address", .str d.address), ("deployer", .text? d.deployer), ("txHash", .text? d.txHash),
    ("blockNumber", .ofOption .int d.blockNumber), ("deploymentData", d.data?.getD .null),
    ("verified", .bool d.verified), ("verifiedAt", .ofOption Time.json d.verifiedAt),
    ("verifiedOn", .text? d.verifiedOn), ("createdAt", d.createdAt.json)]

/-- A key, with its secret only right after it was made. -/
def ApiKey.json (k : ApiKey) (secret : Option String) : Json :=
  .object ([("id", .str k.id), ("label", .str k.label), ("createdAt", k.createdAt.json),
    ("lastUsedAt", .ofOption Time.json k.lastUsedAt), ("revoked", .bool k.isRevoked)]
      ++ secret.toList.map fun s => ("secret", .str s))

def Verification.json (v : Verification) : Json :=
  .object [("verified", .bool v.verified), ("status", .str v.status.text),
    ("matchType", .text? (v.matchKind.map MatchKind.text)), ("message", .str v.message),
    ("expectedHash", .str v.expectedHash)]

end BuildRegistry
