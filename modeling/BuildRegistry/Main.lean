import BuildRegistry.Http.Server
import BuildRegistry.Settings
import Std.Time.DateTime.Timestamp

/-
  The server behind a gateway that terminates connections: a request comes in as a document on one
  line and its answer goes out as one. The registry lives as long as the process.
-/

namespace BuildRegistry.Main

open Http

/-! Requests and answers as documents -/

def text (j : Json) (name : String) : String :=
  match j.field? name with
  | some (.str s) => s
  | _ => ""

def headers (j : Json) : List (String × String) :=
  match j.field? "headers" with
  | some (.obj fields) => fields.filterMap fun
    | (k, .str s) => some (k, s)
    | _ => none
  | _ => []

def requestOf (j : Json) : Request :=
  ⟨.ofName (text j "method"), text j "target", headers j, text j "body"⟩

/-- A body, in hexadecimal digits where it need not be text. -/
def bodyFields : Body → List (String × Json)
  | .document j => [("body", .str j.toText)]
  | .bytes b => [("bodyHex", .str (Hex.encode b))]
  | .archive b => [("bodyHex", .str (Hex.encode b))]
  | .page code => [("body", .str (statusText code).2)]
  | .nothing => []

def answerDocument (r : Response) : Json :=
  .object ([("status", .int r.status), ("contentType", .str r.contentType),
    ("disposition", .text? r.disposition)] ++ bodyFields r.body)

/-! Supplies -/

/-- Sixteen bytes as a random identifier of version 4. -/
def identifier (b : Bytes) : String :=
  let digits := Hex.encodeChars b
  let part (start count : Nat) := (digits.drop start).take count
  String.ofList (part 0 8 ++ '-' :: part 8 4 ++ '-' :: '4' :: part 13 3 ++ '-' :: 'a' :: part 17 3
    ++ '-' :: part 20 12)

/-- A supply from random bytes, of which the first thirty-two become the secret. -/
def supplyOf (now : Time) (random : Bytes) : Supply where
  now := now
  id := fun n => identifier
    ((Sha256.digest (random.drop 32 ++ Bytes.ofString (toString n))).take 16)
  secret := secretOf (random.take 32)

def nextSupply : IO Supply := do
  let now ← Std.Time.Timestamp.now
  let random ← IO.getRandomBytes 64
  return supplyOf ⟨now.toNanosecondsSinceUnixEpoch.val / 1000⟩ random.toList

/-! The process -/

/-- The variables that settings are read from. -/
def settingNames : List String :=
  ["DATABASE_BACKEND", "SQLITE_PATH", "SQLITE_BUSY_TIMEOUT_MS", "DATABASE_URL",
    "DB_MAX_CONNECTIONS", "DB_STATEMENT_TIMEOUT_MS", "ADMIN_TOKEN"]

def environment : IO Settings.Env := do
  return (← settingNames.mapM fun name => do
    return (← IO.getEnv name).map fun value => (name, value)).filterMap id

/-- Nodes are not reached from here. -/
def noNode : Fetch := fun _ _ => .error (.network "no node is connected")

partial def serve (server : Server) (input output : IO.FS.Stream) (reg : Registry) : IO Unit := do
  let line ← input.getLine
  if line.isEmpty then return ()
  match Json.parse? line with
  | none =>
    output.putStrLn (answerDocument (.failure 400 "no request")).toText
    output.flush
    serve server input output reg
  | some j =>
    let (answer, reg) := respond server (← nextSupply) (requestOf j) reg
    output.putStrLn (answerDocument answer).toText
    output.flush
    serve server input output reg

end BuildRegistry.Main

def main : IO UInt32 := do
  match BuildRegistry.Settings.ofEnv (← BuildRegistry.Main.environment) with
  | .error e =>
    IO.eprintln e.message
    return 1
  | .ok settings =>
    let server : BuildRegistry.Http.Server :=
      ⟨settings.adminToken, .standard BuildRegistry.Main.noNode BuildRegistry.Main.noNode⟩
    BuildRegistry.Main.serve server (← IO.getStdin) (← IO.getStdout) .empty
    return 0
