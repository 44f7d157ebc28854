import BuildRegistry.Json.Printer
import BuildRegistry.Json.Shape
import BuildRegistry.Records
import BuildRegistry.Text.Blank

/-
  Bodies of requests. Documents inside them may nest as deep as the limit for the whole body
  leaves room for.
-/

namespace BuildRegistry

open Json

/-- What is published of one contract. -/
structure ContractSubmission where
  name : String
  sourcePath : String
  abi : Option Json
  bytecode : Option String
  deployedBytecode : Option String
  standardJsonInput : Option Json
  storageLayout : Option Json

namespace ContractSubmission

def blank : ContractSubmission := ⟨"", "", none, none, none, none, none⟩

/-- A document inside a contract, itself inside the list of contracts of a request. -/
def document : Reader Json := value (maxDepth - 3)

def read : Reader ContractSubmission :=
  record
    [.required "name" asText fun v c => { c with name := v },
     .defaulted "sourcePath" asText fun v c => { c with sourcePath := v },
     .nullable "abi" document fun v c => { c with abi := v },
     .nullable "bytecode" asText fun v c => { c with bytecode := v },
     .nullable "deployedBytecode" asText fun v c => { c with deployedBytecode := v },
     .nullable "standardJsonInput" document fun v c => { c with standardJsonInput := v },
     .nullable "storageLayout" document fun v c => { c with storageLayout := v }]
    blank

def contractName (c : ContractSubmission) : String := Text.trim c.name

/-- What was submitted for a kind of output, as it is stored: documents as compact text, bytecode
without white space around it. -/
def content? (c : ContractSubmission) : ArtifactKind → Option Bytes
  | .abi => c.abi.map document
  | .bytecode => c.bytecode.map code
  | .deployedBytecode => c.deployedBytecode.map code
  | .standardJsonInput => c.standardJsonInput.map document
  | .storageLayout => c.storageLayout.map document
where
  document (j : Json) : Bytes := Bytes.ofString j.toText
  code (s : String) : Bytes := Bytes.ofString (Text.trim s)

/-- The outputs that were submitted. -/
def outputs (c : ContractSubmission) : List (ArtifactKind × Bytes) :=
  ArtifactKind.all.filterMap fun k => (c.content? k).map fun b => (k, b)

end ContractSubmission

structure PublishRequest where
  chain : String
  builder : String
  compilerVersion : Option String
  compilerSettings : Option Json
  metadata : List (String × String)
  contracts : List ContractSubmission

namespace PublishRequest

def blank : PublishRequest := ⟨"evm", "", none, none, [], []⟩

def read : Reader PublishRequest :=
  record
    [.defaulted "chain" asText fun v r => { r with chain := v },
     .defaulted "builder" asText fun v r => { r with builder := v },
     .nullable "compilerVersion" asText fun v r => { r with compilerVersion := v },
     .nullable "compilerSettings" (value (maxDepth - 1)) fun v r => { r with compilerSettings := v },
     .defaulted "metadata" asTextMap fun v r => { r with metadata := v },
     .required "contracts" (asList ContractSubmission.read) fun v r => { r with contracts := v }]
    blank

def parse (body : String) : Except Fault PublishRequest := whole read body.toList

end PublishRequest

structure RecordRequest where
  packageName : String
  version : String
  contractName : String
  chainId : Int
  address : String
  deployer : Option String
  txHash : Option String
  blockNumber : Option Int
  constructorArgs : Option Json
  libraries : Option (List (String × String))

namespace RecordRequest

def blank : RecordRequest := ⟨"", "", "", 0, "", none, none, none, none, none⟩

def read : Reader RecordRequest :=
  record
    [.required "packageName" asText fun v r => { r with packageName := v },
     .required "version" asText fun v r => { r with version := v },
     .required "contractName" asText fun v r => { r with contractName := v },
     .required "chainId" asInt64 fun v r => { r with chainId := v },
     .required "address" asText fun v r => { r with address := v },
     .nullable "deployer" asText fun v r => { r with deployer := v },
     .nullable "txHash" asText fun v r => { r with txHash := v },
     .nullable "blockNumber" asInt64 fun v r => { r with blockNumber := v },
     .nullable "constructorArgs" (value (maxDepth - 1)) fun v r => { r with constructorArgs := v },
     .nullable "libraries" asTextMap fun v r => { r with libraries := v }]
    blank

def parse (body : String) : Except Fault RecordRequest := whole read body.toList

end RecordRequest

structure VerifyRequest where
  packageName : String
  version : String
  contractName : String
  chainId : Int
  address : String
  rpcUrl : Option String

namespace VerifyRequest

def blank : VerifyRequest := ⟨"", "", "", 0, "", none⟩

def read : Reader VerifyRequest :=
  record
    [.required "packageName" asText fun v r => { r with packageName := v },
     .required "version" asText fun v r => { r with version := v },
     .required "contractName" asText fun v r => { r with contractName := v },
     .required "chainId" asInt64 fun v r => { r with chainId := v },
     .required "address" asText fun v r => { r with address := v },
     .nullable "rpcUrl" asText fun v r => { r with rpcUrl := v }]
    blank

def parse (body : String) : Except Fault VerifyRequest := whole read body.toList

end VerifyRequest

structure StatusRequest where
  verified : Bool
  verifiedOn : Option String

namespace StatusRequest

def read : Reader StatusRequest :=
  record
    [.required "verified" asFlag fun v r => { r with verified := v },
     .nullable "verifiedOn" asText fun v r => { r with verifiedOn := v }]
    ⟨false, none⟩

def parse (body : String) : Except Fault StatusRequest := whole read body.toList

end StatusRequest

structure KeyRequest where
  label : String

namespace KeyRequest

def read : Reader KeyRequest := record [.required "label" asText fun v r => { r with label := v }] ⟨""⟩

def parse (body : String) : Except Fault KeyRequest := whole read body.toList

end KeyRequest

end BuildRegistry
