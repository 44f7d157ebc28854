import BuildRegistry.Decimal.Digits
import BuildRegistry.Settings.EnvFile
import BuildRegistry.Text.Lowercase

/-
  Settings of the server, from variables. Two files may set variables first: the first one only
  those that have no value, the second, local one all.
-/

namespace BuildRegistry

/-- Where the store is kept. -/
inductive Backend where
  | sqlite (path : String) (busyTimeoutMs maxConnections : Nat)
  | postgres (url : String) (maxConnections : Nat) (statementTimeoutMs : Option Nat)
deriving DecidableEq, Repr

structure Settings where
  backend : Backend
  adminToken : Option String
deriving DecidableEq, Repr

inductive SettingsError where
  | missing (name : String)
  | invalid (name value : String)
  | unknownBackend (name : String)
deriving DecidableEq, Repr

def SettingsError.message : SettingsError → String
  | .missing name => name ++ " must be set"
  | .invalid name value => "Invalid value for " ++ name ++ ": " ++ value
  | .unknownBackend name => "Unknown database backend: " ++ name

namespace Settings

open Decimal (maxNat32 maxNat64)

abbrev Env := EnvFile.Env

/-- A number up to `max`, if the variable is set. -/
def number? (e : Env) (name : String) (max : Nat) : Except SettingsError (Option Nat) :=
  match e.lookup name with
  | none => .ok none
  | some text =>
    match Decimal.unsigned? max text.toList with
    | some n => .ok (some n)
    | none => .error (.invalid name text)

def number (e : Env) (name : String) (max default : Nat) : Except SettingsError Nat := do
  return (← number? e name max).getD default

def sqlite (e : Env) : Except SettingsError Backend := do
  let busy ← number e "SQLITE_BUSY_TIMEOUT_MS" maxNat32 5000
  let connections ← number e "DB_MAX_CONNECTIONS" maxNat32 4
  return .sqlite ((e.lookup "SQLITE_PATH").getD "registry.db") busy connections

def postgres (e : Env) : Except SettingsError Backend :=
  match e.lookup "DATABASE_URL" with
  | none => .error (.missing "DATABASE_URL")
  | some url => do
    let connections ← number e "DB_MAX_CONNECTIONS" maxNat32 10
    let timeout ← number? e "DB_STATEMENT_TIMEOUT_MS" maxNat64
    return .postgres url connections timeout

def backendOf (e : Env) : Except SettingsError Backend :=
  let name := (e.lookup "DATABASE_BACKEND").getD "sqlite"
  let lower := Text.lowercase name
  if lower = "sqlite" then sqlite e
  else if lower = "postgres" || lower = "postgresql" then postgres e
  else .error (.unknownBackend name)

def ofEnv (e : Env) : Except SettingsError Settings := do
  return ⟨← backendOf e, (e.lookup "ADMIN_TOKEN").filter (· ≠ "")⟩

/-- The variables after the files, if there are any. -/
def withFiles (file localFile : Option String) (e : Env) : Env :=
  let e := file.elim e (EnvFile.load false e)
  localFile.elim e (EnvFile.load true e)

end Settings

end BuildRegistry
