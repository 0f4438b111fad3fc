/-
The registry of persistence units.

Units are registered under unique names, usually when the process starts, and
stay registered.  The shared handle of a unit is made when the unit is registered,
and the registry keeps it: it is the same one whenever it is looked up.

A unit of work that names no unit means the default one; if no unit has the default
name, a sole registered unit is taken for it.
-/
import Demarcation.SharedHandle
import Demarcation.WorkSpec

namespace Demarcation

/-- A registered unit. -/
structure RegisteredUnit where
  factory : FactoryId
  /-- The shared handle that was made when the unit was registered. -/
  shared : SharedHandle

/-- The units of a process under their names. -/
structure Registry where
  units : Table String RegisteredUnit := .empty

namespace Registry

variable (registry : Registry)

/-- Register a factory under a name that is not taken.  A shared handle is made then,
which takes a new identity. -/
def register (name : String) (factory : FactoryId) :
    Except Failure (SharedId → SharedHandle × Registry) :=
  if registry.units.contains name then
    .error (.duplicateUnit name)
  else
    .ok fun id =>
      let shared : SharedHandle := { id, unit := name, factory }
      (shared, { registry with units := registry.units.insert name { factory, shared } })

/-- The only registered factory, if there is just one. -/
def sole? : Option FactoryId :=
  match registry.units.values with
  | [unit] => some unit.factory
  | _ => none

/-- The factory that a unit of work on the unit `name` uses. -/
def resolve (name : String) : Except Failure FactoryId :=
  match registry.units.find? name with
  | some unit => .ok unit.factory
  | none =>
    if name = defaultUnitName then
      match registry.sole? with
      | some factory => .ok factory
      | none => .error (.unregisteredUnit name)
    else
      .error (.unregisteredUnit name)

/-- The shared handle that was made when `name` was registered. -/
def sharedHandle (name : String) : Except Failure SharedHandle :=
  match registry.units.find? name with
  | some unit => .ok unit.shared
  | none => .error (.unregisteredUnit name)

/-- The names of all units, in no particular order. -/
def names : List String := registry.units.keys

/-- How many units are registered. -/
def size : Nat := registry.units.size

def isEmpty : Bool := registry.units.isEmpty

end Registry

end Demarcation
