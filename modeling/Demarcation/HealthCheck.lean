/-
Health checks.

A health check runs a validation query in a short transaction of its own, on a
handle of its own, under a time limit.
-/
import Demarcation.Work

namespace Demarcation

/-- How a persistence unit is. -/
inductive HealthStatus where
  | healthy
  /-- The validation failed. -/
  | failed (failure : Failure)
  /-- The validation was not done in time. -/
  | timedOut (limit : Duration)
deriving DecidableEq

namespace HealthStatus

def isHealthy : HealthStatus → Bool
  | .healthy => true
  | _ => false

/-- What is wrong, if anything. -/
def reason? (names : Naming) : HealthStatus → Option String
  | .healthy => none
  | .failed failure => some (failure.message names)
  | .timedOut limit => some s!"timed out after {limit.text}"

end HealthStatus

/-- What to check, and how. -/
structure HealthCheck where
  factory : FactoryId
  query : String
  limit : Duration
deriving DecidableEq

namespace HealthCheck

variable {app : Jobs} (health : HealthCheck)

/-- Roll back what a failed query left behind.  A failure is only told. -/
def rollbackOn (handle : Handle) : Work app Unit := do
  if ← handle.transactionActive then
    match ← handle.rollback with
    | .error failure => emit (.healthRollbackFailed failure)
    | .ok () => return ()
  else
    return ()

/-- Run the query on a handle, in a transaction. -/
def validateOn (handle : Handle) : Work app (Except Failure Unit) := do
  match ← handle.begin with
  | .error failure => return .error failure
  | .ok () =>
    match ← handle.execute (.nativeQuery health.query) with
    | .ok _ => handle.commit
    | .error failure =>
      rollbackOn handle
      return .error failure

/-- Run the query on a handle of its own. -/
def validate : Work app (Except Failure Unit) := do
  match ← health.factory.createHandle with
  | .error failure => return .error failure
  | .ok handle =>
    let result ← health.validateOn handle
    handle.close
    return result

/-- Validate under the time limit, and tell how the unit is. -/
def check : TimedWork app HealthStatus := do
  match ← health.validate.within health.limit with
  | some (.ok ()) => return .healthy
  | some (.error failure) =>
    emit (.healthCheckFailed health.factory failure)
    return .failed failure
  | none =>
    emit (.healthCheckTimedOut health.factory health.limit)
    return .timedOut health.limit

end HealthCheck

end Demarcation
