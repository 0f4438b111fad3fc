/-
Specifications of units of work.

A method that needs a unit of work says so by a `WorkSpec`: against which
persistence unit, whether read-only, whether in a transaction, and with which
cache and flush modes.  Specifications are read from JSON documents and written
back as one line of JSON with all fields in order.
-/
import Demarcation.Json.Document
import Demarcation.Json.Writer
import Demarcation.SessionOptions

namespace Demarcation

/-- The unit that is meant when none is named. -/
def defaultUnitName : String := "default"

/-- What a method needs of its unit of work. -/
structure WorkSpec where
  /-- The persistence unit to open a handle of. -/
  unit : String := defaultUnitName
  readOnly : Bool := false
  /-- Whether a transaction is started before the method, committed after it
  and rolled back when it fails. -/
  transactional : Bool := true
  cacheMode : CacheMode := .normal
  flushMode : FlushMode := .auto
deriving DecidableEq

namespace WorkSpec

/-- The policy that the handle of this unit of work is given. -/
def sessionOptions (spec : WorkSpec) : SessionOptions where
  readOnly := spec.readOnly
  cacheMode := spec.cacheMode
  flushMode := spec.flushMode

open Json in
/-- The document form of a specification. -/
def schema : Schema WorkSpec where
  title := "UnitOfWorkSpec"
  default := {}
  fields := [
    .of "unit" (readString "a string") fun spec unit => { spec with unit },
    .of "read_only" readFlag fun spec readOnly => { spec with readOnly },
    .of "transactional" readFlag fun spec transactional => { spec with transactional },
    .of "cache_mode" (readVariant CacheMode.names) fun spec cacheMode => { spec with cacheMode },
    .of "flush_mode" (readVariant FlushMode.names) fun spec flushMode => { spec with flushMode }]

/-- The specification that a JSON text holds. -/
def ofJson (text : String) : Except Json.Problem WorkSpec :=
  Json.readDocument schema.reader text

/-- The specification as JSON text. -/
def toJson (spec : WorkSpec) : String :=
  String.ofList <| Json.writeObject [
    ("unit", Json.quote spec.unit),
    ("read_only", Json.writeFlag spec.readOnly),
    ("transactional", Json.writeFlag spec.transactional),
    ("cache_mode", Json.quote spec.cacheMode.name),
    ("flush_mode", Json.quote spec.flushMode.name)]

end WorkSpec

end Demarcation
