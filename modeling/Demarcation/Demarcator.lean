/-
Demarcation of a unit of work.

A `Demarcator` accompanies one invocation.  `start` opens a handle, configures
it, binds it into the context and begins a transaction if the specification
asks for one.  `complete` commits, `fail` rolls back; either one ends the unit
of work.  The handle is then released at once, or left bound for whoever
finishes the context.

None of these changes the demarcator when it is dropped while it waits.  The
unit of work stays in place until its transaction is ended, so that
`releaseAbandoned` can still release a handle whose commit was dropped.
-/
import Demarcation.Registry

namespace Demarcation

/-- When a handle is given back. -/
inductive ReleaseMode where
  /-- The handle stays bound after its unit of work; the one who finishes the
  context releases it. -/
  | deferred
  /-- The handle is closed and unbound as soon as its unit of work ends. -/
  | immediate
deriving DecidableEq

/-- A unit of work in progress. -/
structure OpenUnit where
  spec : WorkSpec
  handle : Handle
  factory : FactoryId
deriving DecidableEq

namespace OpenUnit

variable {app : Jobs}

/-- Configure and bind a fresh handle, and begin its transaction. -/
def enter (cx : ContextId) (spec : WorkSpec) (handle : Handle) :
    Work app (Except Failure Unit) := do
  match ← handle.configure spec.sessionOptions with
  | .error failure => return .error failure
  | .ok () =>
    let _ ← cx.bind handle
    if spec.transactional then
      handle.begin
    else
      return .ok ()

variable (work : OpenUnit)

/-- Whether there is a transaction to be ended. -/
def owesEnd : Step Bool :=
  if work.spec.transactional then work.handle.transactionActive else return false

/-- Commit the transaction if it is still active. -/
def commit : Work app (Except Failure Unit) := do
  if ← work.owesEnd then
    match ← work.handle.commit with
    | .error failure => return .error failure
    | .ok () =>
      emit (.committed work.spec.unit)
      return .ok ()
  else
    return .ok ()

/-- Roll back the transaction if it is still active.  A failure is only told. -/
def rollback : Work app Unit := do
  if ← work.owesEnd then
    match ← work.handle.rollback with
    | .error failure => emit (.rollbackFailed work.spec.unit failure)
    | .ok () => emit (.rolledBack work.spec.unit)
  else
    return ()

/-- Close the handle and remove its binding. -/
def release (cx : ContextId) : Step Unit := do
  work.handle.close
  let _ ← cx.unbind work.factory
  emit (.released cx work.spec.unit)

end OpenUnit

/-- The companion of one invocation, with its unit of work in progress. -/
structure Demarcator where
  mode : ReleaseMode
  current : Option OpenUnit := none
deriving DecidableEq

namespace Demarcator

variable {app : Jobs} (demarcator : Demarcator)

/-- Whether a unit of work is in progress. -/
def isOpen : Bool := demarcator.current.isSome

/-- The demarcator after its unit of work. -/
def idle : Demarcator := { demarcator with current := none }

/-- Open a unit of work as `spec` says; without a specification nothing
happens.  On failure the handle is closed and the binding of its factory is
removed. -/
def start (registry : Registry) (cx : ContextId) (spec : Option WorkSpec) :
    Work app (Except Failure Demarcator) := do
  match spec with
  | none => return .ok demarcator
  | some spec =>
    match registry.resolve spec.unit with
    | .error failure => return .error failure
    | .ok factory =>
      match ← factory.createHandle with
      | .error failure => return .error failure
      | .ok handle =>
        match ← OpenUnit.enter cx spec handle with
        | .error failure =>
          handle.close
          let _ ← cx.unbind factory
          return .error failure
        | .ok () =>
          emit (.workStarted cx spec.unit spec.transactional)
          return .ok { demarcator with current := some { spec, handle, factory } }

/-- Release the handle if this is to be done at the end of a unit of work. -/
def finish (cx : ContextId) (work : OpenUnit) : Step Unit :=
  match demarcator.mode with
  | .immediate => work.release cx
  | .deferred => return ()

/-- End the unit of work in success: commit.  A failed commit is followed by a
rollback, and the failure of the commit is returned. -/
def complete (cx : ContextId) : Work app (Except Failure Unit × Demarcator) := do
  match demarcator.current with
  | none => return (.ok (), demarcator)
  | some work =>
    match ← work.commit with
    | .ok () =>
      demarcator.finish cx work
      return (.ok (), demarcator.idle)
    | .error failure =>
      emit (.commitFailed cx work.spec.unit failure)
      work.rollback
      demarcator.finish cx work
      return (.error failure, demarcator.idle)

/-- End the unit of work in failure: roll back. -/
def fail (cx : ContextId) : Work app Demarcator := do
  match demarcator.current with
  | none => return demarcator
  | some work =>
    work.rollback
    demarcator.finish cx work
    return demarcator.idle

/-- Release the handle of a unit of work that nobody will end any more. -/
def releaseAbandoned (cx : ContextId) : Step Unit := do
  match demarcator.current with
  | none => return ()
  | some work =>
    emit (.workCancelled cx work.spec.unit)
    work.release cx

/-- Forget the unit of work without touching its handle, because the context is
about to be emptied altogether. -/
def abandon : Step Demarcator := do
  match demarcator.current with
  | none => return demarcator
  | some work =>
    if ← work.handle.transactionActive then
      emit (.workAbandoned work.spec.unit)
    return demarcator.idle

end Demarcator

end Demarcation
