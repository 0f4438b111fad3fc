/-
Components whose methods run in a unit of work.

Outside the request pipeline, for instance in a background job, a component
declares which of its methods need a unit of work.  `callIn` runs such a method
in a context: it opens the unit of work, runs the method, and commits or rolls
back.  Nobody finishes the context later, so the handle is released before the
call returns, and also when the call is dropped.
-/
import Demarcation.Demarcator

namespace Demarcation

/-- A component and the units of work that its methods declare. -/
structure Component (τ : Type) where
  target : τ
  methods : Table String WorkSpec := .empty

namespace Component

variable {τ ρ ε : Type} {app : Jobs}

/-- Run `method` in a unit of work from now on. -/
def declare (component : Component τ) (method : String) (spec : WorkSpec) : Component τ :=
  { component with methods := component.methods.insert method spec }

/-- Open the unit of work that `method` declares, if it declares one. -/
def opening (component : Component τ) (registry : Registry) (cx : ContextId) (method : String) :
    Work app (Except Failure Demarcator) :=
  let idle : Demarcator := { mode := .immediate }
  idle.start registry cx (component.methods.find? method)

/-- End the unit of work of a method that ended in `outcome`. -/
def conclude (ofFailure : Failure → ε) (demarcator : Demarcator) (cx : ContextId) :
    (outcome : Except ε ρ) → Work app (Except ε ρ)
  | .error e => do
    let _ ← demarcator.fail cx
    return .error e
  | .ok value => do
    match ← demarcator.complete cx with
    | (.error failure, _) => return .error (ofFailure failure)
    | (.ok (), _) => return .ok value

/-- Call `method` in the given context.  `ofFailure` turns a failure of the unit
of work into an error of the method. -/
def callIn (component : Component τ) (registry : Registry) (ofFailure : Failure → ε)
    (cx : ContextId) (method : String)
    (call : τ → ContextId → Work app (Except ε ρ)) :
    Work app (Except ε ρ) := do
  match ← component.opening registry cx method with
  | .error failure => return .error (ofFailure failure)
  | .ok demarcator =>
    let body : Work app (Except ε ρ) := do
      let outcome ← call component.target cx
      conclude ofFailure demarcator cx outcome
    body.guarded (demarcator.releaseAbandoned cx)

/-- Call `method` in a context of its own. -/
def call (component : Component τ) (registry : Registry) (ofFailure : Failure → ε)
    (method : String) (call : τ → ContextId → Work app (Except ε ρ)) :
    Work app (Except ε ρ) := do
  let cx ← ContextId.create
  component.callIn registry ofFailure cx method call

end Component

end Demarcation
