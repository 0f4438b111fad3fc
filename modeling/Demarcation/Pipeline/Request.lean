/-
Requests.

A request has a context of its own and passes through the pipeline as a series
of events: a method starts, its response is prepared, something fails, the
response has been written.  The unit of work that a declared method needs is
ended when the response is prepared or when something fails, but its handle
stays bound until the request finishes, so that the response can still be read
from it.

A request that is dropped before it has finished releases whatever is bound.
-/
import Demarcation.Demarcator
import Demarcation.Pipeline.Declarations

namespace Demarcation

/-- What the pipeline tells a request, in this order. -/
inductive RequestEvent where
  /-- The method is about to be called. -/
  | methodStart (method : String)
  /-- The method returned, and its response is about to be prepared. -/
  | responseFiltersStart
  /-- The method or a later stage failed. -/
  | exception
  /-- The response has been written. -/
  | finished
deriving DecidableEq

/-- A request on its way through the pipeline. -/
structure Request where
  context : ContextId
  demarcator : Demarcator := { mode := .deferred }
  finished : Bool := false
deriving DecidableEq

namespace Request

variable {app : Jobs}

/-- A new request, with a context of its own. -/
def create : Step Request := do
  let context ← ContextId.create
  return { context }

variable (request : Request)

/-- Empty the context and close every handle that was bound in it. -/
def finish : Step Request := do
  let demarcator ← request.demarcator.abandon
  request.context.unbindAll Handle.close
  return { request with demarcator, finished := true }

/-- Take notice of an event.  The declarations and the registry are those of
the moment when the event is delivered. -/
def deliver (registry : Registry) (declarations : Declarations) :
    RequestEvent → Work app (Except Failure Unit × Request)
  | .methodStart method => do
    match ← request.demarcator.start registry request.context (declarations.find? method) with
    | .error failure => return (.error failure, request)
    | .ok demarcator => return (.ok (), { request with demarcator })
  | .responseFiltersStart => do
    match ← request.demarcator.complete request.context with
    | (.error failure, demarcator) =>
      return (.error (.mappable failure), { request with demarcator })
    | (.ok (), demarcator) => return (.ok (), { request with demarcator })
  | .exception => do
    let demarcator ← request.demarcator.fail request.context
    return (.ok (), { request with demarcator })
  | .finished => do
    let request ← request.finish
    return (.ok (), request)

/-- Let go of a request. -/
def drop : Step Unit := do
  if !request.finished then
    if !(← request.context.isEmpty) then
      emit (.requestDropped request.context)
      let _ ← request.finish

end Request

end Demarcation
