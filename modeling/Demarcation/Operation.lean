/-
What application code asks of a handle, and what it gets back.

Operations are either reading or mutating.  A mutating operation needs a
transaction: without one it would be accepted and never take effect.
-/
import Demarcation.Entity

namespace Demarcation

/-- Whether an operation may run outside a transaction. -/
inductive OperationKind where
  | read
  | mutating
deriving DecidableEq

/-- A request to the handle that is bound for a unit. -/
inductive Operation where
  | find (key : EntityKey)
  | contains (key : EntityKey)
  | nativeQuery (sql : String)
  | persist (record : Record)
  | merge (record : Record)
  | remove (key : EntityKey)
  | refresh (key : EntityKey)
  | flush
  | joinTransaction
deriving DecidableEq

namespace Operation

def kind : Operation → OperationKind
  | .find _ | .contains _ | .nativeQuery _ => .read
  | .persist _ | .merge _ | .remove _ | .refresh _ | .flush | .joinTransaction => .mutating

/-- The name of an operation in messages. -/
def name : Operation → String
  | .find _ => "find"
  | .contains _ => "contains"
  | .nativeQuery _ => "native_query"
  | .persist _ => "persist"
  | .merge _ => "merge"
  | .remove _ => "remove"
  | .refresh _ => "refresh"
  | .flush => "flush"
  | .joinTransaction => "join_transaction"

end Operation

/-- The answer to an operation. -/
inductive Outcome where
  | unit
  | found (record : Option Record)
  | contains (present : Bool)
  | rows (count : Nat)
  | merged (record : Record)
deriving DecidableEq

end Demarcation
