/-
Shared handles.

A shared handle is what application code keeps for a persistence unit, for as
long as the process lives.  It owns no resource handle: each call goes to the
handle that the given context has bound for the unit's factory.  Transaction
boundaries are not its business.  A mutating operation is refused unless the
bound handle has a transaction, and a shared handle can neither be closed nor
start a transaction.

A shared handle has an identity of its own, minted when it is made, and copies keep
it.  Nothing else is looked at when shared handles are compared: two of them may be
for the same unit name and the same factory and still be different.
-/
import Demarcation.Text.Quoted
import Demarcation.Work

namespace Demarcation

/-- A long-lived handle for one registered unit. -/
structure SharedHandle where
  id : SharedId
  /-- The name under which the unit was registered. -/
  unit : String
  factory : FactoryId

/-- What a shared handle stands for: itself, or a bound handle. -/
inductive Unwrapped where
  | shared (handle : SharedHandle)
  | delegate (handle : Handle)

namespace SharedHandle

instance : BEq SharedHandle where
  beq a b := a.id == b.id

instance : Hashable SharedHandle where
  hash shared := hash shared.id

theorem beq_iff_id_eq {a b : SharedHandle} : a == b ↔ a.id = b.id :=
  beq_iff_eq (a := a.id)

/-- Equal shared handles have the same hash. -/
instance : LawfulHashable SharedHandle where
  hash_eq _ _ hequal := congrArg (hash : SharedId → UInt64) (beq_iff_id_eq.mp hequal)

variable {app : Jobs} (shared : SharedHandle)

/-- A shared handle is never closed. -/
def isOpen (_ : SharedHandle) : Bool := true

/-- Closing is ignored; a handle is released by its unit of work only. -/
def close : Step Unit :=
  emit (.closeIgnored shared.unit)

/-- There is no transaction to be had from a shared handle. -/
def transaction (_ : SharedHandle) : Except Failure Empty :=
  .error .transactionBoundaryMisuse

/-- The text that identifies a shared handle in diagnostics. -/
def describe (names : Naming) : String :=
  let unit := Text.quoted shared.unit
  let factory := names.factory shared.factory
  s!"SharedHandle \x7b unit: {unit}, factory: FactoryId({factory}) \x7d"

/-- The object of type `target`: the shared handle itself, without a look at
the context, or the bound handle if such an object stands behind it.  Without a
target it is the bound handle. -/
def unwrap (cx : ContextId) (target : Option ObjectType) :
    Step (Except Failure Unwrapped) := do
  match target with
  | some .sharedHandle => return .ok (.shared shared)
  | none =>
    match ← cx.current shared.factory with
    | .error failure => return .error failure
    | .ok handle => return .ok (.delegate handle)
  | some target =>
    match ← cx.current shared.factory with
    | .error failure => return .error failure
    | .ok handle =>
      if ← handle.provides target then
        return .ok (.delegate handle)
      else
        return .error .unsupportedUnwrap

/-- Forward an operation to the bound handle. -/
def invoke (cx : ContextId) (operation : Operation) :
    Work app (Except Failure Outcome) := do
  match ← cx.current shared.factory with
  | .error failure => return .error failure
  | .ok handle =>
    match operation.kind with
    | .read => handle.execute operation
    | .mutating =>
      if ← handle.transactionActive then
        handle.execute operation
      else
        return .error (.transactionRequired operation.name)

/-! ## One call for each operation

Each call expects the outcome that belongs to its operation, and tells its own name
if it gets another one. -/

/-- Run an operation and make a result of its outcome. -/
def invokeFor {α : Type} (cx : ContextId) (operation : Operation)
    (result : Outcome → Except Failure α) : Work app (Except Failure α) := do
  match ← shared.invoke cx operation with
  | .error failure => return .error failure
  | .ok outcome => return result outcome

/-- Look up a row; there may be none. -/
def find (cx : ContextId) (key : EntityKey) :
    Work app (Except Failure (Option Record)) :=
  shared.invokeFor cx (.find key) fun
    | .found record => .ok record
    | _ => .error (.unexpectedOutcome "find")

/-- Whether there is such a row. -/
def contains (cx : ContextId) (key : EntityKey) : Work app (Except Failure Bool) :=
  shared.invokeFor cx (.contains key) fun
    | .contains present => .ok present
    | _ => .error (.unexpectedOutcome "contains")

/-- Run SQL; the answer is the number of rows it affected. -/
def nativeQuery (cx : ContextId) (sql : String) : Work app (Except Failure Nat) :=
  shared.invokeFor cx (.nativeQuery sql) fun
    | .rows count => .ok count
    | _ => .error (.unexpectedOutcome "native_query")

/-- Insert a row. -/
def persist (cx : ContextId) (record : Record) : Work app (Except Failure Unit) :=
  shared.invokeFor cx (.persist record) fun _ => .ok ()

/-- Insert or replace a row; the answer is the row as stored. -/
def merge (cx : ContextId) (record : Record) : Work app (Except Failure Record) :=
  shared.invokeFor cx (.merge record) fun
    | .merged record => .ok record
    | _ => .error (.unexpectedOutcome "merge")

/-- Delete a row. -/
def remove (cx : ContextId) (key : EntityKey) : Work app (Except Failure Unit) :=
  shared.invokeFor cx (.remove key) fun _ => .ok ()

/-- Read a row again that has to be there. -/
def refresh (cx : ContextId) (key : EntityKey) : Work app (Except Failure Record) :=
  shared.invokeFor cx (.refresh key) fun
    | .found (some record) => .ok record
    | _ => .error (.unexpectedOutcome "refresh")

/-- Push pending changes to the store. -/
def flush (cx : ContextId) : Work app (Except Failure Unit) :=
  shared.invokeFor cx .flush fun _ => .ok ()

/-- Enlist the bound handle in the transaction in progress. -/
def joinTransaction (cx : ContextId) : Work app (Except Failure Unit) :=
  shared.invokeFor cx .joinTransaction fun _ => .ok ()

end SharedHandle

namespace Unwrapped

variable {app : Jobs}

/-- Whether an object of this type can be had from what was unwrapped. -/
def provides (type : ObjectType) : Unwrapped → Step Bool
  | .shared _ => return type = .sharedHandle
  | .delegate handle => handle.provides type

end Unwrapped

end Demarcation
