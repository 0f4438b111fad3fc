/-
The journal.

Everything worth telling an operator is an `Event`.  The constructors hold what
is known at that moment; level, message and fields are read off them.
-/
import Demarcation.Duration
import Demarcation.Failure

namespace Demarcation

/-- How loudly an event is told. -/
inductive Level where
  | trace | debug | info | warn
deriving DecidableEq

def Level.name : Level → String
  | .trace => "TRACE"
  | .debug => "DEBUG"
  | .info => "INFO"
  | .warn => "WARN"

/-- Something that was noticed. -/
inductive Event where
  | bound (context : ContextId) (factory : FactoryId)
  | bindingReplaced (context : ContextId) (factory : FactoryId)
  | unbound (context : ContextId) (factory : FactoryId)
  | unbindingAll (context : ContextId) (count : Nat)
  | workStarted (context : ContextId) (unit : String) (transactional : Bool)
  | commitFailed (context : ContextId) (unit : String) (failure : Failure)
  | workCancelled (context : ContextId) (unit : String)
  | workAbandoned (unit : String)
  | committed (unit : String)
  | rolledBack (unit : String)
  | rollbackFailed (unit : String) (failure : Failure)
  | released (context : ContextId) (unit : String)
  | closeIgnored (unit : String)
  | unitRegistered (unit : String) (factory : FactoryId)
  | methodDeclared (method : String) (unit : String)
  | requestDropped (context : ContextId)
  | healthCheckFailed (factory : FactoryId) (failure : Failure)
  | healthCheckTimedOut (factory : FactoryId) (limit : Duration)
  | healthRollbackFailed (failure : Failure)
  | unitReady (unit : String) (maxConnections : Nat)
  | poolClosed (factory : FactoryId)
  | transactionStarted (factory : FactoryId) (readOnly : Bool)
  | handleClosed (factory : FactoryId)
deriving DecidableEq

namespace Event

def level : Event → Level
  | .closeIgnored .. => .trace
  | .bound .. | .unbound .. | .unbindingAll .. | .workStarted .. | .committed .. | .rolledBack ..
  | .released .. | .transactionStarted .. | .handleClosed .. => .debug
  | .unitRegistered .. | .methodDeclared .. | .unitReady .. | .poolClosed .. => .info
  | .bindingReplaced .. | .commitFailed .. | .workCancelled .. | .workAbandoned ..
  | .rollbackFailed .. | .requestDropped .. | .healthCheckFailed .. | .healthCheckTimedOut ..
  | .healthRollbackFailed .. => .warn

def message : Event → String
  | .bound .. => "bound resource handle"
  | .bindingReplaced .. => "replaced a handle that was still bound"
  | .unbound .. => "unbound resource handle"
  | .unbindingAll .. => "unbinding all resource handles"
  | .workStarted .. => "unit of work started"
  | .commitFailed .. => "commit failed, rolling back"
  | .workCancelled .. => "unit of work cancelled before completion, releasing handle"
  | .workAbandoned .. => "unit of work abandoned with an active transaction"
  | .committed .. => "transaction committed"
  | .rolledBack .. => "transaction rolled back"
  | .rollbackFailed .. => "rollback failed"
  | .released .. => "resource handle released"
  | .closeIgnored .. => "ignored close on shared handle"
  | .unitRegistered .. => "registered persistence unit"
  | .methodDeclared .. => "declared unit of work"
  | .requestDropped .. => "request dropped before finishing, releasing bound handles"
  | .healthCheckFailed .. => "health check failed"
  | .healthCheckTimedOut .. => "health check timed out"
  | .healthRollbackFailed .. => "rollback after failed validation query failed"
  | .unitReady .. => "persistence unit ready"
  | .poolClosed .. => "connection pool closed"
  | .transactionStarted .. => "transaction started"
  | .handleClosed .. => "handle closed"

/-- The fields of an event under their names. -/
def fields (names : Naming) : Event → List (String × String)
  | .bound cx f | .bindingReplaced cx f | .unbound cx f =>
    [("context", names.context cx), ("factory", names.factory f)]
  | .unbindingAll cx count => [("context", names.context cx), ("count", toString count)]
  | .workStarted cx unit transactional =>
    [("context", names.context cx), ("unit", unit), ("transactional", toString transactional)]
  | .commitFailed cx unit failure =>
    [("context", names.context cx), ("unit", unit), ("error", failure.message names)]
  | .workCancelled cx unit | .released cx unit => [("context", names.context cx), ("unit", unit)]
  | .workAbandoned unit | .committed unit | .rolledBack unit | .closeIgnored unit =>
    [("unit", unit)]
  | .rollbackFailed unit failure => [("unit", unit), ("error", failure.message names)]
  | .unitRegistered unit f => [("unit", unit), ("factory", names.factory f)]
  | .methodDeclared method unit => [("method", method), ("unit", unit)]
  | .requestDropped cx => [("context", names.context cx)]
  | .healthCheckFailed f failure =>
    [("factory", names.factory f), ("error", failure.message names)]
  | .healthCheckTimedOut f limit => [("factory", names.factory f), ("timeout", limit.text)]
  | .healthRollbackFailed failure => [("error", failure.message names)]
  | .unitReady unit count => [("unit", unit), ("max_connections", toString count)]
  | .poolClosed f | .handleClosed f => [("factory", names.factory f)]
  | .transactionStarted f readOnly =>
    [("factory", names.factory f), ("read_only", toString readOnly)]

end Event

end Demarcation
