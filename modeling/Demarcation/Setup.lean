/-
Setting up a process.

A `Setup` is a routine that sets up a process.  It reaches the tables that its
parts share, namely a registry of units and the declared methods, the journal,
and the opening and closing of connection pools.  It can also mint an identity
for a shared handle; the registry does not make up one by itself.
-/
import Demarcation.Async.Task
import Demarcation.Event
import Demarcation.Pipeline.Declarations
import Demarcation.Registry
import Demarcation.UnitSettings

namespace Demarcation

namespace Setup

/-- What is answered at once. -/
inductive Command where
  | registry
  | setRegistry (registry : Registry)
  | declarations
  | setDeclarations (declarations : Declarations)
  /-- Mint an identity. -/
  | mint
  | emit (event : Event)

/-- The answer to a command. -/
abbrev Answer : Command → Type
  | .registry => Registry
  | .declarations => Declarations
  | .mint => SharedId
  | .setRegistry _ | .setDeclarations _ | .emit _ => Unit

/-- What is awaited: a pool, with a factory over it, or the end of one. -/
inductive Call where
  | openPool (settings : UnitSettings)
  | closePool (factory : FactoryId)

/-- The reply to a call. -/
abbrev Reply : Call → Type
  | .openPool _ => Except DatabaseFailure FactoryId
  | .closePool _ => Unit

/-- The commands of setting up. -/
abbrev vocabulary : Vocabulary where
  Command := Command
  Answer := Answer

/-- The calls of setting up. -/
abbrev calls : Calls where
  Call := Call
  Reply := Reply

end Setup

/-- A routine that sets up a process. -/
abbrev Setup : Type → Type := Task Setup.vocabulary Setup.calls

namespace Setup

/-- Write an event to the journal. -/
def emit (event : Event) : Action vocabulary Unit :=
  .perform (.emit event) .done

/-- Register a factory under a name that is not taken. -/
def register (name : String) (factory : FactoryId) :
    Action vocabulary (Except Failure SharedHandle) := do
  let registry ← .perform .registry .done
  match Registry.register registry name factory with
  | .error failure => return .error failure
  | .ok made =>
    let id ← .perform .mint .done
    let (shared, registry) := made id
    emit (.unitRegistered name factory)
    .perform (.setRegistry registry) fun () => .done (.ok shared)

/-- Declare a method. -/
def declare (declaration : MethodDeclaration) : Action vocabulary (Except Failure Unit) := do
  let declarations ← .perform .declarations .done
  match Declarations.declare declarations declaration with
  | .error failure => return .error failure
  | .ok (none, _) => return .ok ()
  | .ok (some spec, declarations) =>
    emit (.methodDeclared declaration.method spec.unit)
    .perform (.setDeclarations declarations) fun () => .done (.ok ())

/-- A factory over the pool that the settings describe. -/
def openPool (settings : UnitSettings) : Setup (Except Failure FactoryId) := do
  match ← .await (.openPool settings) (.done ()) .done with
  | .error failure => return .error (.database failure)
  | .ok factory => return .ok factory

/-- Close the pool of a factory, waiting for its connections to come back. -/
def closePool (factory : FactoryId) : Setup Unit := do
  .await (.closePool factory) (.done ()) .done
  emit (.poolClosed factory)

end Setup

end Demarcation
