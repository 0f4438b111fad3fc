/-
Connection settings of a persistence unit.
-/
import Demarcation.Duration
import Demarcation.WorkSpec

namespace Demarcation

/-- How to connect one persistence unit, and how to check its health. -/
structure UnitSettings where
  /-- The name under which the unit is registered. -/
  name : String := defaultUnitName
  url : String := ""
  maxConnections : Nat := 10
  minConnections : Nat := 0
  /-- How long to wait for a pooled connection. -/
  acquireTimeoutSecs : Nat := 30
  /-- The query that a health check runs. -/
  validationQuery : String := "SELECT 1"
  /-- How long a health check may take. -/
  validationTimeoutSecs : Nat := 5
deriving DecidableEq

namespace UnitSettings

def acquireTimeout (s : UnitSettings) : Duration := .ofSeconds s.acquireTimeoutSecs

def validationTimeout (s : UnitSettings) : Duration := .ofSeconds s.validationTimeoutSecs

/-- The settings of the unit `name` if the environment gives a database URL. -/
def ofEnvironment (name : String) (databaseUrl? : Option String) : Option UnitSettings :=
  databaseUrl?.map fun url => { name, url }

open Json in
/-- The document form of the settings. -/
def schema : Schema UnitSettings where
  title := "PersistenceUnitConfig"
  default := {}
  fields := [
    .of "name" (readString "a string") fun s name => { s with name },
    .of "url" (readString "a string") fun s url => { s with url },
    .of "max_connections" (readWord 32 "u32") fun s maxConnections => { s with maxConnections },
    .of "min_connections" (readWord 32 "u32") fun s minConnections => { s with minConnections },
    .of "acquire_timeout_secs" (readWord 64 "u64")
      fun s acquireTimeoutSecs => { s with acquireTimeoutSecs },
    .of "validation_query" (readString "a string")
      fun s validationQuery => { s with validationQuery },
    .of "validation_timeout_secs" (readWord 64 "u64")
      fun s validationTimeoutSecs => { s with validationTimeoutSecs }]

/-- The settings that a JSON text holds. -/
def ofJson (text : String) : Except Json.Problem UnitSettings :=
  Json.readDocument schema.reader text

end UnitSettings

end Demarcation
