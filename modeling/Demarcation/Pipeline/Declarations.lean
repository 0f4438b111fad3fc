/-
Declarations of pipeline methods.

A method of the request pipeline may be declared to need a unit of work, either
on its definition or on its handler, but not on both.  The first accepted
declaration of a method stands for ever.
-/
import Demarcation.Failure
import Demarcation.Table
import Demarcation.WorkSpec

namespace Demarcation

/-- A request to declare a method. -/
structure MethodDeclaration where
  method : String
  definition : Option WorkSpec := none
  handler : Option WorkSpec := none

/-- The declared methods of a pipeline. -/
structure Declarations where
  methods : Table String WorkSpec := .empty

namespace MethodDeclaration

/-- The specification that is declared, if any; declaring two is a conflict. -/
def spec? (declaration : MethodDeclaration) : Except Failure (Option WorkSpec) :=
  match declaration.definition, declaration.handler with
  | some _, some _ => .error (.conflictingDeclaration declaration.method)
  | some spec, none => .ok (some spec)
  | none, some spec => .ok (some spec)
  | none, none => .ok none

end MethodDeclaration

namespace Declarations

/-- What `method` has been declared to need. -/
def find? (declarations : Declarations) (method : String) : Option WorkSpec :=
  declarations.methods.find? method

/-- Take in a declaration.  The answer is the specification that was added, if
any, and the declarations from now on. -/
def declare (declarations : Declarations) (declaration : MethodDeclaration) :
    Except Failure (Option WorkSpec × Declarations) :=
  match declaration.spec? with
  | .error failure => .error failure
  | .ok none => .ok (none, declarations)
  | .ok (some spec) =>
    if declarations.methods.contains declaration.method then
      .error (.conflictingDeclaration declaration.method)
    else
      .ok (some spec, { methods := declarations.methods.insert declaration.method spec })

end Declarations

end Demarcation
