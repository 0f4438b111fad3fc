/-
Connected units.

A connected unit is a configured persistence unit that is ready for use: its
pool is open, it is registered, and its health can be checked.
-/
import Demarcation.HealthCheck
import Demarcation.Setup

namespace Demarcation

/-- A configured unit with its pool, its registration and its health check. -/
structure ConnectedUnit where
  name : String
  factory : FactoryId
  shared : SharedHandle
  health : HealthCheck

namespace ConnectedUnit

/-- Open the pool that the settings describe, and register it.  If the name is
taken, the pool is closed again before the failure is returned. -/
def connect (settings : UnitSettings) : Setup (Except Failure ConnectedUnit) := do
  match ← Setup.openPool settings with
  | .error failure => return .error failure
  | .ok factory =>
    match ← Setup.register settings.name factory with
    | .error failure =>
      Setup.closePool factory
      return .error failure
    | .ok shared =>
      Setup.emit (.unitReady settings.name settings.maxConnections)
      return .ok {
        name := settings.name
        factory
        shared
        health := {
          factory
          query := settings.validationQuery
          limit := settings.validationTimeout } }

/-- Close the pool.  The unit stays registered; units of work on it fail from
now on when they first touch the database. -/
def close (unit : ConnectedUnit) : Setup Unit :=
  Setup.closePool unit.factory

end ConnectedUnit

end Demarcation
