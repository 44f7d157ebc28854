/-
  Failures of the store. A refused statement has a cause; with the entry it was about, a missing
  row and a duplicate key become failures of their own.
-/

namespace BuildRegistry

/-- Why a statement was refused. -/
inductive Cause where
  | noRow
  | duplicateKey
  | constraint (detail : String)
  | rollback
  | insideTransaction
  | outsideTransaction
  | brokenTransactions
deriving DecidableEq, Repr

namespace Cause

/-- A row refers to one that is not there. -/
def danglingReference : Cause := .constraint "FOREIGN KEY constraint failed"

def message : Cause → String
  | .noRow => "Record not found"
  | .duplicateKey => "constraint failed"
  | .constraint detail => detail
  | .rollback => "You have asked diesel to rollback the transaction"
  | .insideTransaction => "Cannot perform this operation while a transaction is open"
  | .outsideTransaction => "Cannot perform this operation outside of a transaction"
  | .brokenTransactions => "The transaction manager is broken"

end Cause

inductive StoreError where
  | notFound (entry : String)
  | alreadyExists (entry : String)
  | invalidCursor (cursor : String)
  | queryFailed (entry : String) (cause : Cause)
  | transactionFailed (cause : Cause)
  | migrationFailed (detail : String)
deriving DecidableEq, Repr

namespace StoreError

/-- The failure of a statement about an entry. -/
def ofCause (entry : String) : Cause → StoreError
  | .noRow => .notFound entry
  | .duplicateKey => .alreadyExists entry
  | cause => .queryFailed entry cause

def message : StoreError → String
  | .notFound entry => "Entry not found: " ++ entry
  | .alreadyExists entry => "Entry already exists: " ++ entry
  | .invalidCursor cursor => "Invalid cursor: " ++ cursor
  | .queryFailed entry cause => "Failed to query: " ++ entry ++ ": " ++ cause.message
  | .transactionFailed cause => "Transaction failed: " ++ cause.message
  | .migrationFailed detail => "Failed to run migrations: " ++ detail

def isNotFound : StoreError → Bool
  | .notFound _ => true
  | _ => false

end StoreError

end BuildRegistry
