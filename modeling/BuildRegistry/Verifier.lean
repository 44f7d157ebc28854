import BuildRegistry.Bytecode
import BuildRegistry.Json
import BuildRegistry.Url

/-
  Access to the nodes of a family of chains, and the verifiers at hand by the family they are for.
  A verifier fetches the code at an address and compares it with the code that is expected.
-/

namespace BuildRegistry

/-- Why a node gave no code. -/
inductive ChainError where
  | network (detail : String)
  | rpc (code : Int) (message : String)
  | invalidResponse (detail : String)
deriving DecidableEq, Repr

def ChainError.message : ChainError → String
  | .network detail => "Network error: " ++ detail
  | .rpc code message => "RPC error " ++ toString code ++ ": " ++ message
  | .invalidResponse detail => "Invalid RPC response: " ++ detail

/-- What a node answers when it is asked for the code at an address; no code means that there is
no contract. -/
abbrev Fetch := Url → String → Except ChainError Bytes

structure Verifier where
  deployedCode : Fetch
  compareAt : Url → String → Bytes → Except ChainError MatchReport

def MatchReport.noCode (address : String) : MatchReport :=
  .none ("No contract code at " ++ address)

/-- The verifier for chains that work like Ethereum. It asks the node a second time for the
comparison. -/
def Verifier.evm (first second : Fetch) : Verifier where
  deployedCode := first
  compareAt := fun endpoint address expected => do
    let code ← second endpoint address
    return if code = [] then .noCode address else Bytecode.compare expected code

/-- Verifiers by the names of chain families. -/
structure Chains where
  verifiers : List (String × Verifier)

namespace Chains

def none : Chains := ⟨[]⟩

/-- Adds a verifier, in place of one that has the same name. -/
def register (name : String) (v : Verifier) (c : Chains) : Chains :=
  ⟨Json.put name v c.verifiers⟩

def get? (c : Chains) (name : String) : Option Verifier := c.verifiers.lookup name

/-- The names in ascending order. -/
def names (c : Chains) : List String := c.verifiers.map (·.1)

/-- The families that are known from the start. -/
def standard (first second : Fetch) : Chains := none.register "evm" (.evm first second)

end Chains

end BuildRegistry
