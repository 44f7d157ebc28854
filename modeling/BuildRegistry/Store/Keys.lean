import BuildRegistry.Bytes.Sha256
import BuildRegistry.Store.Contracts

/-
  API keys. A key is found by the hash of its secret; the secret itself is not stored. A revoked
  key keeps its row and the time of its first revocation.
-/

namespace BuildRegistry

/-- The mark at the front of every secret. -/
def secretMark : String := "creg_"

/-- The secret that thirty-two random bytes make. -/
def secretOf (random : Bytes) : String := secretMark ++ Hex.encode random

def hashSecret (secret : String) : Bytes := Sha256.digest (Bytes.ofString secret)

namespace Store

def keyByHash? (s : Store) (hash : Bytes) : Option ApiKey :=
  s.keys.find? fun k => k.hash = hash && !k.isRevoked

def keyById? (s : Store) (id : String) : Option ApiKey := s.keys.find? (·.id = id)

def updateKey (s : Store) (id : String) (change : ApiKey → ApiKey) : Store :=
  { s with keys := s.keys.map fun k => if k.id = id then change k else k }

def createKey (label id secret : String) (now : Time) : StoreM ApiKey := do
  let s ← get
  let key : ApiKey := ⟨id, label, hashSecret secret, now, none, none⟩
  if s.keys.any fun k => k.id = id || k.hash = key.hash then fail ("api key " ++ label) .duplicateKey
  else
    set { s with keys := s.keys ++ [key] }
    return key

/-- The key of a secret, marked as used now. -/
def useKey (secret : String) (now : Time) : StoreM ApiKey := do
  let s ← get
  let key ← found "api key" (s.keyByHash? (hashSecret secret))
  set (s.updateKey key.id fun k => { k with lastUsedAt := some now })
  return { key with lastUsedAt := some now }

/-- The keys, oldest first. -/
def listKeys : StoreM (List ApiKey) := do
  return inOrder (fun k l => compareByAge k.createdAt l.createdAt k.id l.id) (← get).keys

def revokeKey (id : String) (now : Time) : StoreM Unit := do
  let s ← get
  let key ← found ("api key " ++ id) (s.keyById? id)
  if key.isRevoked then return ()
  else set (s.updateKey id fun k => { k with revokedAt := some now })

end Store

end BuildRegistry
