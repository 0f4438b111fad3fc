/-
The surroundings of a unit of work.

A `Work` is a routine that units of work are made of.  Its commands reach the
contexts of the process, the part of a handle that answers at once, and the
journal.  Its calls go to factories and handles, which may keep their caller
waiting.  `Jobs` leaves room for whatever else an application awaits in the
midst of a unit of work.

Contexts are used through the operations on `ContextId` given here, which also
write the journal; handles through those on `Handle`.
-/
import Demarcation.Async.Deadline
import Demarcation.Context
import Demarcation.Event
import Demarcation.Operation
import Demarcation.SessionOptions

namespace Demarcation

/-- What an application awaits besides handles. -/
structure Jobs where
  Job : Type
  Result : Job → Type

/-- A kind of object that may stand behind a handle. -/
inductive ObjectType where
  | sharedHandle
  /-- A session with a database server. -/
  | session
  /-- The pool of connections that a session draws on. -/
  | pool
  /-- An object of another kind of handle. -/
  | provided (name : String)
deriving DecidableEq

namespace Work

/-- What is answered at once. -/
inductive Command where
  | context (command : ContextCommand)
  | transactionActive (handle : Handle)
  | close (handle : Handle)
  | provides (handle : Handle) (type : ObjectType)
  | emit (event : Event)

/-- The answer to a command. -/
abbrev Answer : Command → Type
  | .context c => c.Answer
  | .transactionActive _ => Bool
  | .close _ => Unit
  | .provides .. => Bool
  | .emit _ => Unit

/-- What is awaited. -/
inductive Call (app : Jobs) where
  | create (factory : FactoryId)
  | configure (handle : Handle) (options : SessionOptions)
  | begin (handle : Handle)
  | commit (handle : Handle)
  | rollback (handle : Handle)
  | execute (handle : Handle) (operation : Operation)
  | job (job : app.Job)

/-- The reply to a call. -/
abbrev Reply {app : Jobs} : Call app → Type
  | .create _ => Except Failure Handle
  | .configure .. | .begin _ | .commit _ | .rollback _ => Except Failure Unit
  | .execute .. => Except Failure Outcome
  | .job j => app.Result j

end Work

/-- The commands of a unit of work. -/
abbrev Work.vocabulary : Vocabulary where
  Command := Work.Command
  Answer := Work.Answer

/-- The calls of a unit of work. -/
abbrev Work.calls (app : Jobs) : Calls where
  Call := Work.Call app
  Reply := Work.Reply

/-- A routine of a unit of work. -/
abbrev Work (app : Jobs) : Type → Type := Task Work.vocabulary (Work.calls app)

/-- A routine of a unit of work in which every call is timed. -/
abbrev TimedWork (app : Jobs) : Type → Type := Task Work.vocabulary (Work.calls app).timed

/-- A step of a unit of work that does not wait. -/
abbrev Step : Type → Type := Action Work.vocabulary

variable {app : Jobs}

/-- Write an event to the journal. -/
def emit (event : Event) : Step Unit :=
  .perform (.emit event) .done

/-! ## Factories and handles -/

/-- Open a new, unbound handle. -/
def FactoryId.createHandle (factory : FactoryId) : Work app (Except Failure Handle) :=
  .await (.create factory) (.done ()) .done

namespace Handle

variable (handle : Handle)

/-- Apply a session policy before any work starts. -/
def configure (options : SessionOptions) : Work app (Except Failure Unit) :=
  .await (.configure handle options) (.done ()) .done

/-- Start a transaction. -/
def begin : Work app (Except Failure Unit) :=
  .await (.begin handle) (.done ()) .done

/-- Commit the transaction in progress. -/
def commit : Work app (Except Failure Unit) :=
  .await (.commit handle) (.done ()) .done

/-- Roll back the transaction in progress. -/
def rollback : Work app (Except Failure Unit) :=
  .await (.rollback handle) (.done ()) .done

/-- Run one operation, inside the transaction if there is one. -/
def execute (operation : Operation) : Work app (Except Failure Outcome) :=
  .await (.execute handle operation) (.done ()) .done

/-- Whether a transaction is open and not yet ended. -/
def transactionActive : Step Bool :=
  .perform (.transactionActive handle) .done

/-- Release the handle; an open transaction is abandoned. -/
def close : Step Unit :=
  .perform (.close handle) .done

/-- Whether an object of this type stands behind the handle. -/
def provides (type : ObjectType) : Step Bool :=
  .perform (.provides handle type) .done

end Handle

/-! ## Contexts -/

namespace ContextId

/-- A new context, with nothing bound. -/
def create : Step ContextId :=
  .perform (.context .create) .done

variable (cx : ContextId)

/-- Bind a handle under its factory; the handle it replaces is returned. -/
def bind (handle : Handle) : Step (Option Handle) := do
  let replaced ← .perform (.context (.bind cx handle)) .done
  if replaced.isSome then
    emit (.bindingReplaced cx handle.factory)
  else
    emit (.bound cx handle.factory)
  return replaced

/-- Remove the binding of `factory`; the handle that was bound is returned. -/
def unbind (factory : FactoryId) : Step (Option Handle) := do
  let removed ← .perform (.context (.unbind cx factory)) .done
  if removed.isSome then
    emit (.unbound cx factory)
  return removed

/-- Pass each of `handles` to `release`. -/
def releaseEach (release : Handle → Step Unit) :
    List Handle → Step Unit
  | [] => return ()
  | handle :: handles => do
    release handle
    releaseEach release handles

/-- Remove every binding, and pass each handle to `release` afterwards. -/
def unbindAll (release : Handle → Step Unit) : Step Unit := do
  let table ← .perform (.context (.unbindAll cx)) .done
  match table with
  | none => return ()
  | some table =>
    emit (.unbindingAll cx table.size)
    releaseEach release table.values

/-- The handle that is bound for `factory`, if any. -/
def find? (factory : FactoryId) : Step (Option Handle) :=
  .perform (.context (.find cx factory)) .done

/-- The handle that is bound for `factory`. -/
def current (factory : FactoryId) : Step (Except Failure Handle) := do
  match ← cx.find? factory with
  | some handle => return .ok handle
  | none => return .error (.noHandleBound factory)

/-- Whether a handle is bound for `factory`. -/
def hasBinding (factory : FactoryId) : Step Bool := do
  return (← cx.find? factory).isSome

/-- Whether nothing is bound. -/
def isEmpty : Step Bool :=
  .perform (.context (.isEmpty cx)) .done

end ContextId

end Demarcation
