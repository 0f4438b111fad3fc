/-
What can go wrong.

`DatabaseFailure` is what the connection to a database reports, `Failure` what
any call of this library may end in.  The wording is in `message` alone; a
failure keeps its cause, so that who receives it can tell the cases apart.
-/
import Demarcation.Entity
import Demarcation.Identity

namespace Demarcation

/-- A failure on the way to a database or reported by it. -/
inductive DatabaseFailure where
  /-- The server refused a statement or a connection. -/
  | server (detail : String)
  | poolTimedOut
  | poolClosed
  | rowNotFound
  | workerCrashed
  | protocol (detail : String)
  | columnNotFound (name : String)
  | columnDecode (name : String) (detail : String)
  | configuration (detail : String)
  | io (detail : String)
  /-- Anything else that keeps a connection from being made. -/
  | other (detail : String)
deriving DecidableEq

/-- The name of the kind of a failure. -/
def DatabaseFailure.kind : DatabaseFailure → String
  | .server _ => "Server"
  | .poolTimedOut => "PoolTimedOut"
  | .poolClosed => "PoolClosed"
  | .rowNotFound => "RowNotFound"
  | .workerCrashed => "WorkerCrashed"
  | .protocol _ => "Protocol"
  | .columnNotFound _ => "ColumnNotFound"
  | .columnDecode .. => "ColumnDecode"
  | .configuration _ => "Configuration"
  | .io _ => "Io"
  | .other _ => "Other"

def DatabaseFailure.message : DatabaseFailure → String
  | .server detail => s!"error returned from database: {detail}"
  | .poolTimedOut => "pool timed out while waiting for an open connection"
  | .poolClosed => "attempted to acquire a connection on a closed pool"
  | .rowNotFound =>
    "no rows returned by a query that expected to return at least one row"
  | .workerCrashed => "attempted to communicate with a crashed background worker"
  | .protocol detail => s!"encountered unexpected or invalid data: {detail}"
  | .columnNotFound name => s!"no column found for name: {name}"
  | .columnDecode name detail => s!"error occurred while decoding column \"{name}\": {detail}"
  | .configuration detail => s!"error with configuration: {detail}"
  | .io detail => s!"error communicating with database: {detail}"
  | .other detail => detail

/-- How a call of this library may fail. -/
inductive Failure where
  | noHandleBound (factory : FactoryId)
  | unregisteredUnit (name : String)
  | duplicateUnit (name : String)
  | conflictingDeclaration (method : String)
  | transactionRequired (operation : String)
  | transactionBoundaryMisuse
  | transactionInProgress
  | commitFailed (reason : String)
  | rollbackFailed (reason : String)
  | handleClosed
  | entityNotFound (key : EntityKey)
  | invalidIdentifier (text : String)
  | unsupportedUnwrap
  | unexpectedOutcome (operation : String)
  | database (cause : DatabaseFailure)
  /-- A unit of work that failed while the response was being prepared. -/
  | mappable (cause : Failure)
deriving DecidableEq

namespace Failure

/-- The name of the kind of a failure. -/
def kind : Failure → String
  | .noHandleBound _ => "NoHandleBound"
  | .unregisteredUnit _ => "UnregisteredUnit"
  | .duplicateUnit _ => "DuplicateUnit"
  | .conflictingDeclaration _ => "ConflictingDeclaration"
  | .transactionRequired _ => "TransactionRequired"
  | .transactionBoundaryMisuse => "TransactionBoundaryMisuse"
  | .transactionInProgress => "TransactionInProgress"
  | .commitFailed _ => "CommitFailed"
  | .rollbackFailed _ => "RollbackFailed"
  | .handleClosed => "HandleClosed"
  | .entityNotFound _ => "EntityNotFound"
  | .invalidIdentifier _ => "InvalidIdentifier"
  | .unsupportedUnwrap => "UnsupportedUnwrap"
  | .unexpectedOutcome _ => "UnexpectedOutcome"
  | .database _ => "Database"
  | .mappable _ => "Mappable"

def message (names : Naming) : Failure → String
  | .noHandleBound factory =>
    "No resource handle currently bound to execution context for persistence unit "
      ++ names.factory factory
  | .unregisteredUnit name => s!"Unregistered persistence unit: '{name}'"
  | .duplicateUnit name => s!"Persistence unit '{name}' is already registered"
  | .conflictingDeclaration method =>
    s!"Method '{method}' has more than one unit of work declaration"
  | .transactionRequired operation =>
    "No resource handle with an active transaction available - cannot reliably process "
      ++ s!"'{operation}' call"
  | .transactionBoundaryMisuse =>
    "Not allowed to obtain a transaction on a shared handle - declare a unit of work instead"
  | .transactionInProgress => "A transaction is already in progress on this handle"
  | .commitFailed reason => s!"Transaction commit failed: {reason}"
  | .rollbackFailed reason => s!"Transaction rollback failed: {reason}"
  | .handleClosed => "Resource handle is closed"
  | .entityNotFound key => s!"Entity '{key.entity}' with id {key.id.text} not found"
  | .invalidIdentifier text => s!"Invalid SQL identifier: '{text}'"
  | .unsupportedUnwrap => "Resource handle cannot be unwrapped to the requested type"
  | .unexpectedOutcome operation => s!"Unexpected outcome for '{operation}' call"
  | .database cause => s!"Database error: {cause.message}"
  | .mappable cause =>
    s!"Unit of work failed while preparing the response: {cause.message names}"

/-- The messages of the failures behind this one, nearest first. -/
def causes (names : Naming) : Failure → List String
  | .database cause => [cause.message]
  | .mappable cause => cause.message names :: cause.causes names
  | _ => []

end Failure

end Demarcation
